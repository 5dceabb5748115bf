/-
The record of an index, written and read back.

What is written is one of the many records of an index, and reading it
gives the same index. This is a result about JSON values (`ofJson_toJson`)
and does not depend on how text is read: with any reader that gives the
record back from what a writer makes of it, the index comes back. That the
reader and the writer of JSON do so, and any text that is read as the
record will do, is put on top of it (`survives_writing`).

The limit on nesting is no obstacle: a record is written no deeper than any it
could be read from. That is `Kept`, shown of every kind of value that can be
nested, the scopes by induction over their events (`kept_events`). Of a
property and of the index itself only the reading back is left to show, since
nothing reads them at a depth of its own.

Two values are not written as they were read. A location is written as
the text form of what its text was read as, which gives the location back
though white space, signs and leading zeros are lost. A list that was left
out is written empty, which takes a level of nesting: the lines of the
scope, which cannot be left out, take that level as well.

# Sections

* values without nesting
* records of fields
* events and scopes
* properties and the index
* writing: a record is read back from its text
-/
import SpecDebugger.Json.Printer
import SpecDebugger.Proofs.Index.Fields
import SpecDebugger.Proofs.Index.Tree
import SpecDebugger.Proofs.Json.Printing
import SpecDebugger.Proofs.LocationText

namespace SpecDebugger.Index

namespace Record

-- ============================================= values without nesting

/-- A number that could be read is below the bound, and so is read back. -/
theorem kept_nat (n : Nat) : Kept Json.nat? Json.nat n := by
  have hlt {j : Json} (h : j.nat? = some n) : n < Text.wordBound := by
    unfold Json.nat? at h
    split at h
    next => exact Json.Numeral.lt_of_toNat? h
    next => cases h
  exact ⟨fun h => Json.Numeral.toNat?_ofNat (hlt h),
    fun h _ => Json.Numeral.inRange_ofNat (hlt h)⟩

theorem kept_text (s : String) : Kept Json.text? Json.text s :=
  ⟨fun _ => rfl, fun _ _ => rfl⟩

/-- A location that was read was read from some text. -/
theorem exists_parse_of_sloc? {j : Json} {l : SpecLocation}
    (h : sloc? j = some l) : ∃ s, SpecLocation.parse s = .ok l := by
  obtain ⟨s, -, hs⟩ := Option.bind_eq_some_iff.mp h
  exact ⟨s, toOption_eq_some_iff.mp hs⟩

/-- A value that is given was read by the reader of such values. -/
theorem nullable_some {α : Type} {read : Json → Option α} {j : Json} {a : α}
    (h : nullable read j = some (some a)) : read j = some a := by
  unfold nullable at h
  split at h
  next => cases h
  next => simpa using h

/-- A location is kept, though its text need not be. -/
theorem kept_sloc (l : Option SpecLocation) :
    Kept (nullable sloc?) ofSloc l := by
  cases l with
  | none => exact ⟨fun _ => rfl, fun _ _ => rfl⟩
  | some l =>
      refine ⟨fun h => ?_, fun _ _ => rfl⟩
      obtain ⟨s, hs⟩ := exists_parse_of_sloc? (nullable_some h)
      have hback := SpecLocation.parse_display (SpecLocation.fits_of_parse hs)
        (SpecLocation.separable_of_parse hs)
      have hread : sloc? (.text l.display) = some l := by
        rw [sloc?, Json.text, Json.text?, Option.bind_eq_bind,
          Option.bind_some]
        exact toOption_eq_some_iff.mpr hback
      exact congrArg (Option.map some) hread

-- ================================================== records of fields

theorem kept_range (r : LineRange) : Kept range? ofRange r := by
  refine Kept.of_members (fun _ => rfl) rfl fun ms h => ?_
  simp only [Option.bind_eq_bind, Option.bind_eq_some_iff] at h
  obtain ⟨first, hfirst, last, hlast, ⟨⟩⟩ := h
  constructor
  · simp [required, field?, valuesOf, (kept_nat _).required hfirst,
      (kept_nat _).required hlast]
  · intro depth hms
    simp only [List.forall_mem_cons]
    exact ⟨(kept_nat _).required_readable hfirst fun v => hms _,
      (kept_nat _).required_readable hlast fun v => hms _, by simp⟩

theorem kept_binding (b : Binding) : Kept binding? ofBinding b := by
  refine Kept.of_members (fun _ => rfl) rfl fun ms h => ?_
  simp only [Option.bind_eq_bind, Option.bind_eq_some_iff] at h
  obtain ⟨dslName, hdsl, genName, hgen, line, hline, ⟨⟩⟩ := h
  constructor
  · simp [required, field?, valuesOf, (kept_text _).required hdsl,
      (kept_text _).required hgen, (kept_nat _).required hline]
  · intro depth hms
    simp only [List.forall_mem_cons]
    exact ⟨(kept_text _).required_readable hdsl fun v => hms _,
      (kept_text _).required_readable hgen fun v => hms _,
      (kept_nat _).required_readable hline fun v => hms _, by simp⟩

/-- A start marker is kept, with its location in the form it is shown in. -/
theorem kept_start (e : ExprStart) : Kept exprStart? ofStart e := by
  refine Kept.of_members (fun _ => rfl) rfl fun ms h => ?_
  simp only [Option.bind_eq_bind, Option.bind_eq_some_iff] at h
  obtain ⟨id, hid, image, himage, result, hresult, sloc, hsloc, line, hline,
    ⟨⟩⟩ := h
  constructor
  · simp [required, withDefault, field?, valuesOf, (kept_nat _).required hid,
      (kept_text _).required himage, (kept_text _).required hresult,
      (kept_sloc _).withDefault rfl hsloc, (kept_nat _).required hline]
  · intro depth hms
    simp only [List.forall_mem_cons]
    exact ⟨(kept_nat _).required_readable hid fun v => hms _,
      (kept_text _).required_readable himage fun v => hms _,
      (kept_text _).required_readable hresult fun v => hms _,
      (kept_sloc _).withDefault_readable rfl hsloc fun v => hms _,
      (kept_nat _).required_readable hline fun v => hms _, by simp⟩

theorem kept_done (d : ExprDone) : Kept exprDone? ofDone d := by
  refine Kept.of_members (fun _ => rfl) rfl fun ms h => ?_
  simp only [Option.bind_eq_bind, Option.bind_eq_some_iff] at h
  obtain ⟨id, hid, line, hline, ⟨⟩⟩ := h
  constructor
  · simp [required, field?, valuesOf, (kept_nat _).required hid,
      (kept_nat _).required hline]
  · intro depth hms
    simp only [List.forall_mem_cons]
    exact ⟨(kept_nat _).required_readable hid fun v => hms _,
      (kept_nat _).required_readable hline fun v => hms _, by simp⟩

-- =================================================== events and scopes

/-- A start marker is read from a record with the one field `start`. -/
theorem marker?_start_iff {j : Json} {e : ExprStart} :
    marker? j = some (.start e) ↔
      ∃ v, j = .record [("start", v)] ∧ exprStart? v = some e := by
  constructor
  · intro h
    unfold marker? at h
    split at h
    next v => exact ⟨v, rfl, by simpa using h⟩
    next => simp at h
    next => cases h
  · intro hyp
    obtain ⟨v, rfl, hv⟩ := hyp
    simp [Json.record, marker?, hv]

/-- A done marker is read from a record with the one field `done`. -/
theorem marker?_done_iff {j : Json} {d : ExprDone} :
    marker? j = some (.done d) ↔
      ∃ v, j = .record [("done", v)] ∧ exprDone? v = some d := by
  constructor
  · intro h
    unfold marker? at h
    split at h
    next => simp at h
    next v => exact ⟨v, rfl, by simpa using h⟩
    next => cases h
  · intro hyp
    obtain ⟨v, rfl, hv⟩ := hyp
    simp [Json.record, marker?, hv]

theorem kept_marker (m : Marker) : Kept marker? ofMarker m := by
  cases m with
  | start e => exact (kept_start e).tagged (fun _ => marker?_start_iff) rfl
  | done d => exact (kept_done d).tagged (fun _ => marker?_done_iff) rfl

/-- A marker is an event under the tag `expr`. -/
theorem event?_marker_iff {j : Json} {m : Marker} :
    event? j = some (.marker m) ↔
      ∃ v, j = .record [("expr", v)] ∧ marker? v = some m := by
  constructor
  · intro h
    unfold event? at h
    split at h
    next v => exact ⟨v, rfl, by simpa using h⟩
    next => simp at h
    next => cases h
  · intro hyp
    obtain ⟨v, rfl, hv⟩ := hyp
    simp [Json.record, event?, hv]

/-- A nested scope is an event under the tag `scope`. -/
theorem event?_scope_iff {j : Json} {s : Scope} :
    event? j = some (.scope s.lines s.bindings s.events) ↔
      ∃ v, j = .record [("scope", v)] ∧ scope? v = some s := by
  constructor
  · intro h
    unfold event? at h
    split at h
    next => simp at h
    next v =>
      simp only [Option.map_eq_some_iff, Event.scope.injEq] at h
      obtain ⟨t, ht, hlines, hbindings, hevents⟩ := h
      obtain ⟨_, _, _⟩ := t
      obtain ⟨_, _, _⟩ := s
      cases hlines
      cases hbindings
      cases hevents
      exact ⟨v, rfl, ht⟩
    next => cases h
  · intro hyp
    obtain ⟨v, rfl, hv⟩ := hyp
    simp [Json.record, event?, hv]


/-- Events are read one by one; that they are read together with the
scopes inside them does not show. -/
theorem eventList?_eq_mapM (js : List Json) :
    eventList? js = js.mapM event? := by
  induction js with
  | nil => rfl
  | cons j js ih => rw [eventList?, List.mapM_cons, ih]

/-- The events of a scope are read as any list is. -/
theorem events?_eq : events? = Json.list? event? := by
  funext j
  cases j with
  | array items => rw [events?, Json.list?, eventList?_eq_mapM]
  | null => rfl
  | bool b => rfl
  | number n => rfl
  | string s => rfl
  | object ms => rfl

theorem ofEvents_eq_map (es : List Event) : ofEvents es = es.map ofEvent := by
  induction es with
  | nil => rfl
  | cons e es ih => rw [ofEvents, List.map_cons, ih]

-- =============================================================== scopes

/-- The scope that the members of its record give. -/
def scopeFields? (ms : List (Option String × Json)) : Option Scope := do
  let lines ← required range? "lines" ms
  let bindings ← withDefault (Json.list? binding?) [] "bindings" ms
  let events ← withDefault (Json.list? event?) [] "events" ms
  pure { lines, bindings, events }

theorem valuesOf_cons (key : String) (k : Option String) (v : Json)
    (ms : List (Option String × Json)) :
    valuesOf key ((k, v) :: ms) =
      if k = some key then v :: valuesOf key ms else valuesOf key ms := by
  unfold valuesOf
  rw [List.filterMap_cons]
  by_cases h : k = some key
  · simp [h]
  · simp [h]

/-- Events that are not given are none. -/
theorem eventsField?_of_nil {ms : List (Option String × Json)}
    (h : valuesOf "events" ms = []) : eventsField? ms = some [] := by
  induction ms with
  | nil => rfl
  | cons m ms ih =>
      obtain ⟨k, v⟩ := m
      rw [valuesOf_cons] at h
      rw [eventsField?]
      split at h
      next => cases h
      next hk =>
        rw [if_neg hk]
        exact ih h

/-- Of several lists of events the first one counts, here; a second one
is refused elsewhere. -/
theorem eventsField?_of_cons {ms : List (Option String × Json)} {v : Json}
    {vs : List Json} (h : valuesOf "events" ms = v :: vs) :
    eventsField? ms = events? v := by
  induction ms with
  | nil => cases h
  | cons m ms ih =>
      obtain ⟨k, w⟩ := m
      rw [valuesOf_cons] at h
      rw [eventsField?]
      split at h
      next hk =>
        cases h
        rw [if_pos hk]
      next hk =>
        rw [if_neg hk]
        exact ih h

/-- The reader of a scope looks its events up as any field with a
default is looked up. -/
theorem withDefault_events (ms : List (Option String × Json)) :
    withDefault (Json.list? event?) [] "events" ms =
      (field? "events" ms).bind fun _ => eventsField? ms := by
  unfold withDefault field?
  split
  next heq =>
    rw [eventsField?_of_nil heq]
    rfl
  next v heq =>
    rw [eventsField?_of_cons heq, events?_eq]
    rfl
  next => rfl

/-- Both forms of a scope give its members. -/
theorem scope?_eq (j : Json) :
    scope? j =
      (members? ["lines", "bindings", "events"] j).bind scopeFields? := by
  cases j with
  | null => rfl
  | bool b => rfl
  | number n => rfl
  | string s => rfl
  | array items =>
      -- no item, the lines alone, with the bindings, with the events, too many
      rcases items with - | ⟨lines, - | ⟨bindings, - | ⟨events, - | ⟨x, xs⟩⟩⟩⟩
      · rfl
      · simp [scope?, members?, scopeFields?, required, withDefault, field?,
          valuesOf]
      · simp [scope?, members?, scopeFields?, required, withDefault, field?,
          valuesOf]
      · simp [scope?, members?, scopeFields?, required, withDefault, field?,
          valuesOf, events?_eq]
      · have hlong : ¬ (lines :: bindings :: events :: x :: xs).length ≤
            ["lines", "bindings", "events"].length := by
          simp only [List.length_cons, List.length_nil]
          omega
        rw [members?, if_neg hlong]
        simp [scope?]
  | object ms =>
      rw [scope?, members?, Option.bind_some, scopeFields?, withDefault_events]
      simp only [Option.bind_eq_bind, Option.bind_assoc]

/-- The members of the record of a scope, as they also stand in that of a
property. -/
def scopeMembers (s : Scope) : List (String × Json) :=
  [("lines", ofRange s.lines),
    ("bindings", .array (s.bindings.map ofBinding)),
    ("events", .array (ofEvents s.events))]

/-- The fields of a scope are kept that is read from the members `ms`. -/
structure FieldsKept (s : Scope) (ms : List (Option String × Json)) :
    Prop where
  lines : range? (ofRange s.lines) = some s.lines
  bindings : Json.list? binding? (.array (s.bindings.map ofBinding)) =
    some s.bindings
  events : Json.list? event? (.array (ofEvents s.events)) = some s.events
  readable : ∀ depth, (∀ key ∈ ["lines", "bindings", "events"],
      ∀ v, (some key, v) ∈ ms → v.readable depth = true) →
    ∀ w ∈ scopeMembers s, w.2.readable depth = true

/-- The fields that a scope was read from are kept, if its events are. -/
theorem fieldsKept {s : Scope} {ms : List (Option String × Json)}
    (h : scopeFields? ms = some s)
    (events : ∀ e ∈ s.events, Kept event? ofEvent e) : FieldsKept s ms := by
  unfold scopeFields? at h
  simp only [Option.bind_eq_bind, Option.bind_eq_some_iff] at h
  obtain ⟨lines, hlines, bindings, hbindings, es, hevents, ⟨⟩⟩ := h
  have keptLines := kept_range lines
  have keptBindings := Kept.list fun b (_ : b ∈ bindings) => kept_binding b
  have keptEvents := Kept.list events
  simp only [← ofEvents_eq_map] at keptEvents
  refine ⟨keptLines.required hlines, keptBindings.withDefault rfl hbindings,
    keptEvents.withDefault rfl hevents, fun depth hms => ?_⟩
  have hrange := keptLines.required_readable hlines (hms "lines" (by simp))
  -- the lines take a level, so an empty list fits as well
  obtain ⟨d, rfl, -⟩ := Json.readable_record_iff.mp hrange
  simp only [scopeMembers, List.forall_mem_cons]
  exact ⟨hrange,
    keptBindings.withDefault_readable rfl hbindings (hms _ (by simp)),
    keptEvents.withDefault_readable rfl hevents (hms _ (by simp)), by simp⟩

/-- A scope is kept if its events are. -/
theorem kept_scope (s : Scope)
    (events : ∀ e ∈ s.events, Kept event? ofEvent e) :
    Kept scope? (fun s => .record (scopeMembers s)) s := by
  refine Kept.of_members scope?_eq rfl fun ms h => ?_
  have kept := fieldsKept h events
  constructor
  · simp [scopeMembers, scopeFields?, required, withDefault, field?, valuesOf,
      kept.lines, kept.bindings, kept.events]
  · intro depth hms
    exact kept.readable depth fun key _ v => hms _

/-- All events are kept: by induction over the scopes nested in them. -/
theorem kept_events (es : List Event) : ∀ e ∈ es, Kept event? ofEvent e := by
  induction es using Event.nesting with
  | nil => simp
  | marker m es ih =>
      rw [List.forall_mem_cons]
      exact ⟨(kept_marker m).tagged (fun _ => event?_marker_iff) rfl, ih⟩
  | scope lines bindings events es ihEvents ihEs =>
      have kept := kept_scope ⟨lines, bindings, events⟩ ihEvents
      have hread := fun j => @event?_scope_iff j ⟨lines, bindings, events⟩
      rw [List.forall_mem_cons]
      exact ⟨kept.tagged hread rfl, ihEs⟩

-- ========================================================== properties

/-- The range of a memoization was read as a range. -/
theorem memoization?_some {j : Json} {r : LineRange}
    (h : memoization? j = some (some r)) : range? j = some r := by
  unfold memoization? at h
  split at h
  next => cases h
  next ms =>
    split at h
    next => simpa using h
    next => cases h
  next => simpa using h

/-- A memoization is kept whether it is given or not. -/
theorem kept_memoization (r : Option LineRange) :
    Kept memoization? (Json.ofOption ofRange) r := by
  cases r with
  | none => exact ⟨fun _ => rfl, fun _ _ => rfl⟩
  | some r =>
      refine ⟨fun h => ?_, fun h =>
        (kept_range r).readable (memoization?_some h)⟩
      have hback := (kept_range r).reads_back (memoization?_some h)
      show (range? (ofRange r)).map some = some (some r)
      rw [hback]
      rfl

/-- A location is written without nesting. -/
@[simp]
theorem readable_ofSloc (l : Option SpecLocation) (depth : Nat) :
    (ofSloc l).readable depth = true := by
  cases l with
  | none => rfl
  | some l => rfl

/-- What a member of a property was read from is nested no deeper than
allowed. -/
theorem readable_of_memberReadable {ms : List (Option String × Json)}
    (hms : ms.all memberReadable = true) {key : String}
    (hkey : key ≠ "memoization_lookup") {v : Json}
    (hv : (some key, v) ∈ ms) : v.readable propertyDepth = true := by
  have h := List.all_eq_true.mp hms _ hv
  simpa [memberReadable, hkey] using h

/-- A property is read back from its record: all members of that are
readable, as the ones it was read from are. -/
theorem property?_ofProperty {j : Json} {p : Property}
    (h : property? j = some p) : property? (ofProperty p) = some p := by
  unfold property? at h
  split at h
  next ms =>
    split at h
    next => cases h
    next hall =>
      have hms : ms.all memberReadable = true := by simpa using hall
      simp only [Option.bind_eq_bind, Option.bind_eq_some_iff] at h
      obtain ⟨name, hname, sloc, hsloc, memoization, hmemoization, scope,
        hscope, ⟨⟩⟩ := h
      rw [scope?_eq, members?, Option.bind_some] at hscope
      have kept := fieldsKept hscope (kept_events scope.events)
      have hreadable : ∀ w ∈ scopeMembers scope,
          w.2.readable propertyDepth = true := by
        refine kept.readable _ fun key hkey v hv => ?_
        refine readable_of_memberReadable hms (fun heq => ?_) hv
        rw [heq] at hkey
        simp at hkey
      have hnameBack := (kept_text name).required hname
      have hslocBack := (kept_sloc sloc).withDefault rfl hsloc
      have hmemoizationBack :=
        (kept_memoization memoization).withDefault rfl hmemoization
      simp only [scopeMembers, List.forall_mem_cons] at hreadable
      simp [ofProperty, Json.record, property?, memberReadable, hreadable,
        scope?_eq, members?, scopeFields?, required, withDefault, field?,
        valuesOf, hnameBack, hslocBack, hmemoizationBack, kept.lines,
        kept.bindings, kept.events]
      rfl
  next => cases h

/-- The record of an index gives its file and its properties. -/
theorem index?_toJson {j : Json} {filename : String} {ps : List Property}
    (h : index? j = some (filename, ps)) (names : NameTable) :
    index? (toJson ⟨filename, ps, names⟩) = some (filename, ps) := by
  unfold index? at h
  simp only [Option.bind_eq_bind, Option.bind_eq_some_iff] at h
  obtain ⟨ms, -, h⟩ := h
  split at h
  next => cases h
  next =>
    simp only [Option.bind_eq_some_iff] at h
    obtain ⟨name, hname, properties, hproperties, ⟨⟩⟩ := h
    have hnameBack := (kept_text filename).required hname
    have hback : Json.list? property? (.array (ps.map ofProperty)) =
        some ps := by
      rcases withDefault_eq_some_iff.mp hproperties with h | h
      · obtain ⟨-, rfl⟩ := h
        rfl
      · obtain ⟨v, -, hv⟩ := h
        exact list?_map hv fun _ _ _ hp => property?_ofProperty hp
    simp [toJson, Json.record, index?, members?, required, withDefault,
      field?, valuesOf, hnameBack, hback]

-- ============================================================== writing

open Json (Plain)

theorem plain_ofSloc (l : Option SpecLocation) : Plain (ofSloc l) := by
  cases l with
  | none => exact .null
  | some l => exact .text _

theorem plain_ofRange (r : LineRange) : Plain (ofRange r) := by
  refine .record ?_
  simp only [List.forall_mem_cons]
  exact ⟨.nat _, .nat _, by simp⟩

theorem plain_ofBinding (b : Binding) : Plain (ofBinding b) := by
  refine .record ?_
  simp only [List.forall_mem_cons]
  exact ⟨.text _, .text _, .nat _, by simp⟩

/-- Nothing is written under a tag but what it tags. -/
theorem plain_tagged {tag : String} {j : Json} (h : Plain j) :
    Plain (.record [(tag, j)]) :=
  .record (List.forall_mem_singleton.mpr h)

theorem plain_ofMarker (m : Marker) : Plain (ofMarker m) := by
  cases m with
  | start e =>
      refine plain_tagged (.record ?_)
      simp only [List.forall_mem_cons]
      exact ⟨.nat _, .text _, .text _, plain_ofSloc _, .nat _, by simp⟩
  | done d =>
      refine plain_tagged (.record ?_)
      simp only [List.forall_mem_cons]
      exact ⟨.nat _, .nat _, by simp⟩

/-- The fields of a scope are plain when its events are. -/
theorem plain_scopeMembers {s : Scope} (h : ∀ j ∈ ofEvents s.events, Plain j) :
    ∀ w ∈ scopeMembers s, Plain w.2 := by
  simp only [scopeMembers, List.forall_mem_cons]
  refine ⟨plain_ofRange _, .array ?_, .array h, by simp⟩
  exact List.forall_mem_map.mpr fun b _ => plain_ofBinding b

/-- Events are written plainly, at any depth. -/
theorem plain_ofEvents (es : List Event) : ∀ j ∈ ofEvents es, Plain j := by
  induction es using Event.nesting with
  | nil => simp [ofEvents]
  | marker m es ih =>
      rw [ofEvents, List.forall_mem_cons]
      exact ⟨plain_tagged (plain_ofMarker m), ih⟩
  | scope lines bindings events es ihEvents ihEs =>
      rw [ofEvents, List.forall_mem_cons]
      have hscope := @plain_scopeMembers ⟨lines, bindings, events⟩ ihEvents
      exact ⟨plain_tagged (.record hscope), ihEs⟩

theorem plain_ofProperty (p : Property) : Plain (ofProperty p) := by
  have hscope := @plain_scopeMembers p.toScope (plain_ofEvents p.events)
  have hmemoization : Plain (Json.ofOption ofRange p.memoization) := by
    cases p.memoization with
    | none => exact .null
    | some r => exact plain_ofRange r
  refine .record ?_
  rw [List.forall_mem_cons, List.forall_mem_cons, List.forall_mem_cons]
  exact ⟨.text _, plain_ofSloc _, hmemoization, hscope⟩

end Record

/-- An index is written plainly, so that its text is read as its record. -/
theorem plain_toJson (ix : Index) : Json.Plain ix.toJson := by
  refine .record ?_
  simp only [List.forall_mem_cons]
  refine ⟨.text _, .array ?_, by simp⟩
  exact List.forall_mem_map.mpr fun p _ => Record.plain_ofProperty p

/-- An index that a JSON value gives is the one that its own record gives,
all its parts included. No text is involved: whatever reads and writes
JSON, an index survives as far as its record does. -/
theorem ofJson_toJson {j : Json} {ix : Index} (h : ofJson j = .ok ix) :
    ofJson ix.toJson = .ok ix := by
  unfold ofJson at h
  split at h
  next => cases h
  next filename properties hread =>
    obtain ⟨rfl, -⟩ := build_eq_ok_iff.mp h
    unfold ofJson
    rw [Record.index?_toJson hread _]
    exact h

/-- An index that was loaded is loaded again, the same in all its parts
and so in all its answers, from the text its record is written as and
from any other text that writes that record. -/
theorem survives_writing {text : String} {ix : Index}
    (loaded : parse text = .ok ix) :
    parse ix.toJson.print = .ok ix ∧
      ∀ written, Json.parse? written = some ix.toJson →
        parse written = .ok ix := by
  have hread (written : String) (h : Json.parse? written = some ix.toJson) :
      parse written = .ok ix := by
    unfold parse at loaded ⊢
    split at loaded
    next => cases loaded
    next =>
      rw [h]
      exact ofJson_toJson loaded
  exact ⟨hread _ ix.plain_toJson.parse?_print, hread⟩

/-- An index in arrays where it may be, with white space and a leading
zero in a location, an escape, a member that is ignored, and without some
of the fields that may be left out. -/
def looseRecord : String :=
  "[\"f\", [\x7b\"name\": \"p\\u0071\", \"dsl_sloc\": \" a:07 \", \"x\": [],
    \"lines\": [1, 9], \"events\": [\x7b\"scope\": [[2, 8]]\x7d]\x7d]]"

/-- A loose record is loaded, and then loaded again as it is written. -/
theorem survives_writing_specimen :
    ∃ ix, parse looseRecord = .ok ix ∧
      (ix.properties.map fun p => (p.name, p.sloc.map (·.display))) =
        [("pq", some "a:7")] ∧
      Json.parse? ix.toJson.print = some ix.toJson ∧
      parse ix.toJson.print = .ok ix := by
  have hload : ((parse looseRecord).toOption.any fun ix =>
      (ix.properties.map fun p => (p.name, p.sloc.map (·.display))) ==
        [("pq", some "a:7")]) = true := by decide +kernel
  obtain ⟨ix, hix, hread⟩ := (Option.any_eq_true _ _).mp hload
  have loaded := toOption_eq_some_iff.mp hix
  have hprint := ix.plain_toJson.parse?_print
  exact ⟨ix, loaded, eq_of_beq hread, hprint,
    (survives_writing loaded).2 _ hprint⟩

end SpecDebugger.Index
