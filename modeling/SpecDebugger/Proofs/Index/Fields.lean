/-
Values that are kept: read from any record, written as a record of their
own, and read back from that.

Many records stand for one value: objects and arrays of the same fields,
objects with members that are ignored, records without the fields that
have a default. So nothing is said about what was read except that it
gave the value (`Kept`). Two things are to be shown of the record that is
written: it gives the value again, and it is readable at every depth at
which the record that was read was. The second makes `Kept` hold of a
record when it holds of its fields (`Kept.of_members`), and so of values
that are nested, however deep.

# Sections

* readability, level by level
* the fields of a record
* kept values: in fields, in records, under a name, in lists
-/
import SpecDebugger.Index.Record

namespace SpecDebugger

-- ======================================================== readability

namespace Json

@[simp]
theorem readableItems_iff {depth : Nat} {items : List Json} :
    readableItems depth items = true ↔
      ∀ item ∈ items, item.readable depth = true := by
  induction items with
  | nil => simp [readableItems]
  | cons item items ih => simp [readableItems, ih]

theorem readableMembers_iff {depth : Nat}
    {members : List (Option String × Json)} :
    readableMembers depth members = true ↔
      ∀ m ∈ members, m.1.isSome = true ∧ m.2.readable depth = true := by
  induction members with
  | nil => simp [readableMembers]
  | cons m members ih => simp [readableMembers, ih, and_assoc]

/-- An array takes one level of nesting, and its items the rest. -/
@[simp]
theorem readable_array_iff {depth : Nat} {items : List Json} :
    (array items).readable depth = true ↔
      ∃ d, depth = d + 1 ∧ ∀ item ∈ items, item.readable d = true := by
  cases depth with
  | zero => simp [readable]
  | succ d => simp [readable]

/-- An object takes one level as well, and its keys have to be texts. -/
theorem readable_object_iff {depth : Nat}
    {members : List (Option String × Json)} :
    (object members).readable depth = true ↔ ∃ d, depth = d + 1 ∧
      ∀ m ∈ members, m.1.isSome = true ∧ m.2.readable d = true := by
  cases depth with
  | zero => simp [readable]
  | succ d => simp [readable, readableMembers_iff]

/-- The keys of a record that is written are texts. -/
theorem readable_record_iff {depth : Nat} {members : List (String × Json)} :
    (record members).readable depth = true ↔
      ∃ d, depth = d + 1 ∧ ∀ m ∈ members, m.2.readable d = true := by
  rw [record, readable_object_iff]
  simp only [List.forall_mem_map, Option.isSome_some, true_and]

end Json

namespace Index.Record

-- ============================================================= fields

/-- A field that is found is one of the members. -/
theorem mem_of_field? {key : String} {ms : List (Option String × Json)}
    {v : Json} (h : field? key ms = some (some v)) : (some key, v) ∈ ms := by
  have hv : v ∈ valuesOf key ms := by
    unfold field? at h
    split at h
    next => cases h
    next heq =>
      cases h
      rw [heq]
      exact List.mem_singleton_self v
    next => cases h
  obtain ⟨⟨k, w⟩, hm, hk⟩ := List.mem_filterMap.mp hv
  simp only [Option.ite_none_right_eq_some, Option.some.injEq] at hk
  obtain ⟨rfl, rfl⟩ := hk
  exact hm

/-- Both forms of a record are readable no deeper than their members. -/
theorem readable_of_members? {names : List String} {j : Json}
    {ms : List (Option String × Json)} {depth : Nat}
    (h : members? names j = some ms) (hj : j.readable depth = true) :
    ∃ d, depth = d + 1 ∧ ∀ m ∈ ms, m.2.readable d = true := by
  unfold members? at h
  split at h
  next =>
    cases h
    obtain ⟨d, rfl, hmembers⟩ := Json.readable_object_iff.mp hj
    exact ⟨d, rfl, fun m hm => (hmembers m hm).2⟩
  next items =>
    obtain ⟨d, rfl, hitems⟩ := Json.readable_array_iff.mp hj
    split at h
    next =>
      cases h
      exact ⟨d, rfl, fun m hm => hitems m.2 (List.of_mem_zip hm).2⟩
    next => cases h
  next => cases h

section fields

variable {α : Type} {read : Json → Option α} {a default : α} {key : String}
  {ms : List (Option String × Json)}

/-- A required field is there once, and can be read. -/
theorem required_eq_some_iff :
    required read key ms = some a ↔
      ∃ v, field? key ms = some (some v) ∧ read v = some a := by
  unfold required
  cases field? key ms with
  | none => simp
  | some value =>
      cases value with
      | none => simp
      | some v => simp

/-- A field with a default is there and can be read, or is not there. -/
theorem withDefault_eq_some_iff :
    withDefault read default key ms = some a ↔
      (field? key ms = some none ∧ default = a) ∨
        ∃ v, field? key ms = some (some v) ∧ read v = some a := by
  unfold withDefault
  cases field? key ms with
  | none => simp
  | some value =>
      cases value with
      | none => simp
      | some v => simp

end fields

-- =============================================================== kept

/-- A value is kept when, whatever it is read from, its own record gives
it back, and is readable wherever that was. -/
structure Kept {α : Type} (read : Json → Option α) (write : α → Json)
    (a : α) : Prop where
  reads_back : ∀ {j}, read j = some a → read (write a) = some a
  readable : ∀ {j depth}, read j = some a → j.readable depth = true →
    (write a).readable depth = true

section kept

variable {α : Type} {read : Json → Option α} {write : α → Json}
  {a default : α} {key : String} {ms : List (Option String × Json)}
  {depth : Nat}

/-- What was read from a required field is read from what it is written as. -/
theorem Kept.required (kept : Kept read write a)
    (h : required read key ms = some a) : read (write a) = some a := by
  obtain ⟨v, -, hv⟩ := required_eq_some_iff.mp h
  exact kept.reads_back hv

/-- A required field is written no deeper than it was read from. -/
theorem Kept.required_readable (kept : Kept read write a)
    (h : Record.required read key ms = some a)
    (hms : ∀ v, (some key, v) ∈ ms → v.readable depth = true) :
    (write a).readable depth = true := by
  obtain ⟨v, hfield, hv⟩ := required_eq_some_iff.mp h
  exact kept.readable hv (hms v (mem_of_field? hfield))

/-- A field with a default is read back, as long as the default is. -/
theorem Kept.withDefault (kept : Kept read write a)
    (back : read (write default) = some default)
    (h : withDefault read default key ms = some a) :
    read (write a) = some a := by
  rcases withDefault_eq_some_iff.mp h with ⟨-, rfl⟩ | ⟨v, -, hv⟩
  · exact back
  · exact kept.reads_back hv

theorem Kept.withDefault_readable (kept : Kept read write a)
    (hdefault : (write default).readable depth = true)
    (h : Record.withDefault read default key ms = some a)
    (hms : ∀ v, (some key, v) ∈ ms → v.readable depth = true) :
    (write a).readable depth = true := by
  rcases withDefault_eq_some_iff.mp h with ⟨-, rfl⟩ | ⟨v, hfield, hv⟩
  · exact hdefault
  · exact kept.readable hv (hms v (mem_of_field? hfield))

/-- A record is kept when its fields are. -/
theorem Kept.of_members {names : List String}
    {fields : List (Option String × Json) → Option α}
    (hread : ∀ j, read j = (members? names j).bind fields)
    {ws : List (String × Json)} (hwrite : write a = .record ws)
    (hfields : ∀ ms, fields ms = some a →
      fields (ws.map fun w => (some w.1, w.2)) = some a ∧
        ∀ depth, (∀ m ∈ ms, m.2.readable depth = true) →
          ∀ w ∈ ws, w.2.readable depth = true) :
    Kept read write a := by
  constructor
  · intro j h
    rw [hread] at h ⊢
    obtain ⟨ms, -, hms⟩ := Option.bind_eq_some_iff.mp h
    rw [hwrite]
    exact (hfields ms hms).1
  · intro j depth h hj
    rw [hread] at h
    obtain ⟨ms, hmembers, hms⟩ := Option.bind_eq_some_iff.mp h
    obtain ⟨d, rfl, hvalues⟩ := readable_of_members? hmembers hj
    rw [hwrite]
    exact Json.readable_record_iff.mpr ⟨d, rfl, (hfields ms hms).2 d hvalues⟩

/-- A value under the name of its kind is kept when the value is. -/
theorem Kept.tagged {β : Type} {inner : Json → Option β}
    {innerWrite : β → Json} {b : β} {tag : String}
    (kept : Kept inner innerWrite b)
    (hread : ∀ j, read j = some a ↔
      ∃ v, j = .record [(tag, v)] ∧ inner v = some b)
    (hwrite : write a = .record [(tag, innerWrite b)]) :
    Kept read write a := by
  constructor
  · intro j h
    obtain ⟨v, -, hv⟩ := (hread j).mp h
    exact (hread _).mpr ⟨_, hwrite, kept.reads_back hv⟩
  · intro j depth h hj
    obtain ⟨v, rfl, hv⟩ := (hread j).mp h
    obtain ⟨d, rfl, hd⟩ := Json.readable_record_iff.mp hj
    rw [hwrite]
    refine Json.readable_record_iff.mpr ⟨d, rfl, fun w hw => ?_⟩
    cases List.mem_singleton.mp hw
    exact kept.readable hv (hd _ List.mem_cons_self)

end kept

-- =============================================================== lists

section lists

variable {α : Type} {read : Json → Option α} {write : α → Json}
  {as : List α}

/-- Every value of a list was read from one of the items. -/
theorem exists_mem_of_mapM {items : List Json}
    (h : items.mapM read = some as) :
    ∀ a ∈ as, ∃ j ∈ items, read j = some a := by
  induction items generalizing as with
  | nil =>
      cases h
      simp
  | cons j items ih =>
      rw [List.mapM_cons] at h
      simp only [Option.bind_eq_bind, Option.bind_eq_some_iff] at h
      obtain ⟨a, ha, rest, hrest, ⟨⟩⟩ := h
      rw [List.forall_mem_cons]
      refine ⟨⟨j, List.mem_cons_self, ha⟩, fun b hb => ?_⟩
      obtain ⟨k, hk, hread⟩ := ih hrest b hb
      exact ⟨k, List.mem_cons_of_mem _ hk, hread⟩

/-- A list is read back if each of its values is. -/
theorem mapM_map_eq_some (h : ∀ a ∈ as, read (write a) = some a) :
    (as.map write).mapM read = some as := by
  induction as with
  | nil => rfl
  | cons a as ih =>
      rw [List.forall_mem_cons] at h
      rw [List.map_cons, List.mapM_cons, h.1, ih h.2]
      rfl

/-- A list is read from an array, each value from an item. -/
theorem exists_of_list? {j : Json} (h : j.list? read = some as) :
    ∃ items, j = .array items ∧
      ∀ a ∈ as, ∃ v ∈ items, read v = some a := by
  unfold Json.list? at h
  split at h
  next items => exact ⟨items, rfl, exists_mem_of_mapM h⟩
  next => cases h

/-- A list is read back when its items are. -/
theorem list?_map {j : Json} (h : j.list? read = some as)
    (back : ∀ a ∈ as, ∀ v, read v = some a → read (write a) = some a) :
    Json.list? read (.array (as.map write)) = some as := by
  obtain ⟨items, -, hitems⟩ := exists_of_list? h
  refine mapM_map_eq_some fun a ha => ?_
  obtain ⟨v, -, hv⟩ := hitems a ha
  exact back a ha v hv

/-- A list is kept when its items are. -/
theorem Kept.list (kept : ∀ a ∈ as, Kept read write a) :
    Kept (Json.list? read) (fun as => .array (as.map write)) as := by
  constructor
  · intro j h
    exact list?_map h fun a ha _ hv => (kept a ha).reads_back hv
  · intro j depth h hj
    obtain ⟨items, rfl, hitems⟩ := exists_of_list? h
    obtain ⟨d, rfl, hd⟩ := Json.readable_array_iff.mp hj
    refine Json.readable_array_iff.mpr ⟨d, rfl, ?_⟩
    rw [List.forall_mem_map]
    intro a ha
    obtain ⟨v, hmem, hv⟩ := hitems a ha
    exact (kept a ha).readable hv (hd v hmem)

end lists

end Index.Record

end SpecDebugger
