/-
What it means that a location is one a query asks for, and what an index
has for a query.

- Matching is a preorder on locations. A query is weaker than what it
  matches: it has fewer components of the path, and may leave out the
  column and the discriminator. Locations that match each other differ at
  most in how their paths are written (`isMatch_and_isMatch_iff`).
- Locations are totally ordered, by their parts, and a query is never
  after what it matches in its own file (`isLE_compare_of_isMatch`).
- The start markers of an index have places (`Index.StartAt`): the
  position of the property, and then one position for each scope on the
  way down to the marker. The order of a depth-first walk is the
  lexicographic order of places. `Index.placed` is the walk with the
  places it comes to, so that the matches of a query, in their order, are
  what stands at the places of the markers it matches
  (`exists_places`), neither twice nor under another property.
- The matches of a stronger query are left when those of a weaker one are
  filtered once more (`findMatches_sublist`).
-/
import SpecDebugger.Proofs.Choice
import SpecDebugger.Proofs.Index.Order

namespace SpecDebugger

-- ============================================================= paths

namespace FilePath

variable {a b c : String}

theorem same_iff : same a b = true ↔ components a = components b := by
  simp [same]

theorem endsWith_trans (hab : endsWith a b = true)
    (hbc : endsWith b c = true) : endsWith a c = true :=
  endsWith_iff.mpr ((endsWith_iff.mp hbc).trans (endsWith_iff.mp hab))

/-- Two paths that end with each other are the same path. -/
theorem endsWith_and_endsWith_iff :
    endsWith a b = true ∧ endsWith b a = true ↔ same a b = true := by
  rw [endsWith_iff, endsWith_iff, same_iff]
  constructor
  · intro hyp
    obtain ⟨hba, hab⟩ := hyp
    exact hab.eq_of_length (Nat.le_antisymm hab.length_le hba.length_le)
  · intro heq
    rw [heq]
    exact ⟨List.suffix_rfl, List.suffix_rfl⟩

end FilePath

-- ========================================================== matching

namespace SpecLocation

/-- Equal texts are no case of their own, as a path ends with itself. -/
@[simp]
theorem fileMatches_eq (recorded query : String) :
    fileMatches recorded query = FilePath.endsWith recorded query := by
  unfold fileMatches
  by_cases heq : recorded = query
  · simp [heq]
  · rw [beq_false_of_ne heq, Bool.false_or]

/-- A part of a query asks for nothing, or for the same number. -/
@[simp]
theorem partMatches_iff {recorded query : Option Nat} :
    partMatches recorded query = true ↔ ∀ n ∈ query, n ∈ recorded := by
  cases query with
  | none => simp [partMatches]
  | some n => simp [partMatches]

/-- A query asks for the end of a path and for a line, and may ask for a
column and a discriminator. -/
theorem isMatch_iff {l query : SpecLocation} :
    l.isMatch query = true ↔
      FilePath.endsWith l.file query.file = true ∧ l.line = query.line ∧
        (∀ n ∈ query.column, n ∈ l.column) ∧
        ∀ n ∈ query.discriminator, n ∈ l.discriminator := by
  simp [isMatch, and_assoc]

@[simp]
theorem isMatch_self (l : SpecLocation) : l.isMatch l = true :=
  isMatch_iff.mpr ⟨FilePath.endsWith_self _, rfl, fun _ h => h, fun _ h => h⟩

/-- What a location matches, it matches through anything in between. -/
theorem isMatch_trans {a b c : SpecLocation} (hab : a.isMatch b = true)
    (hbc : b.isMatch c = true) : a.isMatch c = true := by
  obtain ⟨hfile, hline, hcolumn, hdiscriminator⟩ := isMatch_iff.mp hab
  obtain ⟨hfile', hline', hcolumn', hdiscriminator'⟩ := isMatch_iff.mp hbc
  refine isMatch_iff.mpr ⟨FilePath.endsWith_trans hfile hfile',
    hline.trans hline', ?_, ?_⟩
  · exact fun n hn => hcolumn n (hcolumn' n hn)
  · exact fun n hn => hdiscriminator n (hdiscriminator' n hn)

/-- Locations that match each other are the same up to the writing of
their paths. -/
theorem isMatch_and_isMatch_iff {a b : SpecLocation} :
    a.isMatch b = true ∧ b.isMatch a = true ↔
      a.line = b.line ∧ a.column = b.column ∧
        a.discriminator = b.discriminator ∧
        FilePath.same a.file b.file = true := by
  rw [isMatch_iff, isMatch_iff, ← FilePath.endsWith_and_endsWith_iff]
  constructor
  · intro hyp
    obtain ⟨⟨hfile, hline, hcolumn, hdisc⟩, hfile', -, hcolumn', hdisc'⟩ := hyp
    refine ⟨hline, ?_, ?_, hfile, hfile'⟩
    · exact Option.ext fun n => ⟨hcolumn' n, hcolumn n⟩
    · exact Option.ext fun n => ⟨hdisc' n, hdisc n⟩
  · intro hyp
    obtain ⟨hline, hcolumn, hdisc, hfile, hfile'⟩ := hyp
    rw [hline, hcolumn, hdisc]
    exact ⟨⟨hfile, rfl, fun _ h => h, fun _ h => h⟩,
      hfile', rfl, fun _ h => h, fun _ h => h⟩

-- ============================================================ the order

/-- An absent number is before any other. -/
theorem compare_option_eq_lt {m n : Option Nat} :
    Ord.compare m n = .lt ↔ m < n := by
  cases m with
  | none => cases n <;> simp [Ord.compare]
  | some m => cases n <;> simp [Ord.compare, compareOfLessAndEq_eq_lt]

/-- The first part in which two locations differ decides. A part that is
absent comes before every other. -/
theorem compare_eq_lt_iff {a b : SpecLocation} :
    compare a b = .lt ↔
      a.file < b.file ∨ a.file = b.file ∧
        (a.line < b.line ∨ a.line = b.line ∧
          (a.column < b.column ∨ a.column = b.column ∧
            a.discriminator < b.discriminator)) := by
  have hfile : Ord.compare a.file b.file = .lt ↔ a.file < b.file :=
    compareOfLessAndEq_eq_lt
  simp only [compare, Ordering.then_eq_lt, Std.LawfulEqCmp.compare_eq_iff_eq,
    hfile, Nat.compare_eq_lt, compare_option_eq_lt]

/-- The order tells all locations apart. -/
theorem compare_eq_eq_iff {a b : SpecLocation} :
    compare a b = .eq ↔ a = b := by
  obtain ⟨file, line, column, discriminator⟩ := a
  obtain ⟨file', line', column', discriminator'⟩ := b
  simp [compare, Ordering.then_eq_eq, Std.LawfulEqCmp.compare_eq_iff_eq]

instance : Std.LawfulEqCmp compare where
  compare_self := compare_eq_eq_iff.mpr rfl
  eq_of_compare := compare_eq_eq_iff.mp

/-- The order goes on along what is in between, and is the same read from
either side. -/
instance : Std.TransCmp compare :=
  inferInstanceAs (Std.TransCmp
    (compareLex (compareOn file) (compareLex (compareOn line)
      (compareLex (compareOn column) (compareOn discriminator)))))

/-- A query is not after what it matches in the file that it names. -/
theorem isLE_compare_of_isMatch {l query : SpecLocation}
    (h : l.isMatch query = true) (hfile : l.file = query.file) :
    (compare query l).isLE = true := by
  obtain ⟨-, hline, hcolumn, hdiscriminator⟩ := isMatch_iff.mp h
  have hpart {m n : Option Nat} (h : ∀ k ∈ m, k ∈ n) : m = n ∨ m < n := by
    cases m with
    | none => cases n <;> simp
    | some k => exact .inl (h k rfl).symm
  rw [Ordering.isLE_iff_eq_lt_or_eq_eq, compare_eq_lt_iff, compare_eq_eq_iff]
  rcases hpart hcolumn with hcolumn | hcolumn
  · rcases hpart hdiscriminator with hsame | hless
    · right
      cases l
      cases query
      simp_all
    · exact .inl (.inr ⟨hfile.symm, .inr ⟨hline.symm, .inr ⟨hcolumn, hless⟩⟩⟩)
  · exact .inl (.inr ⟨hfile.symm, .inr ⟨hline.symm, .inl hcolumn⟩⟩)

end SpecLocation

-- ============================================================ places

/-- The start marker `e` stands at a place of an event: the event is that
marker, or a scope with the marker at the rest of the place in one of its
events. -/
inductive Event.StartAt (e : ExprStart) : Event → List Nat → Prop where
  | here : StartAt e (.marker (.start e)) []
  | inside {lines : LineRange} {bindings : List Binding}
    {events : List Event} {event : Event} {i : Nat} {place : List Nat}
    (position : events[i]? = some event) (below : StartAt e event place) :
    StartAt e (.scope lines bindings events) (i :: place)

/-- The start marker `e` of the property `p` stands at a place of an
index: the position of the property, that of an event of its body, and
the place in the event. -/
inductive Index.StartAt (ix : Index) (p : Property) (e : ExprStart) :
    List Nat → Prop where
  | mk {event : Event} {i j : Nat} {place : List Nat}
    (property : ix.properties[i]? = some p)
    (position : p.events[j]? = some event)
    (below : event.StartAt e place) : StartAt ix p e (i :: j :: place)

section Among

variable {α β : Type}

/-- What `f` has for each item of a list, with the position of the item
in front of its place. The positions are counted from `i`. -/
def placedAmong (f : α → List (List Nat × β)) (i : Nat) :
    List α → List (List Nat × β)
  | [] => []
  | a :: as => (f a).map (fun x => (i :: x.1, x.2)) ++ placedAmong f (i + 1) as

variable {f : α → List (List Nat × β)} {i : Nat} {as : List α}

/-- Without their places, the things found among others are found in order. -/
@[simp]
theorem map_snd_placedAmong :
    (placedAmong f i as).map Prod.snd =
      as.flatMap fun a => (f a).map Prod.snd := by
  induction as generalizing i with
  | nil => rfl
  | cons a as ih =>
      rw [placedAmong, List.map_append, List.map_map, ih, List.flatMap_cons]
      rfl

/-- What is found among others stands in one of them, whose position its
place begins with. -/
@[simp]
theorem mem_placedAmong {place : List Nat} {b : β} :
    (place, b) ∈ placedAmong f i as ↔
      ∃ j a rest, as[j]? = some a ∧ place = (i + j) :: rest ∧
        (rest, b) ∈ f a := by
  induction as generalizing i with
  | nil => simp [placedAmong]
  | cons a as ih =>
      rw [placedAmong, List.mem_append, ih]
      constructor
      · intro hyp
        rcases hyp with hfirst | ⟨j, a', rest, ha', rfl, hmem⟩
        · obtain ⟨⟨rest, b'⟩, hmem, heq⟩ := List.mem_map.mp hfirst
          cases heq
          exact ⟨0, a, rest, rfl, rfl, hmem⟩
        · exact ⟨j + 1, a', rest, ha', by rw [Nat.add_right_comm]; rfl, hmem⟩
      · intro hyp
        obtain ⟨j, a', rest, ha', rfl, hmem⟩ := hyp
        cases j with
        | zero =>
            cases ha'
            exact .inl (List.mem_map.mpr ⟨(rest, b), hmem, rfl⟩)
        | succ j =>
            refine .inr ⟨j, a', rest, ha', ?_, hmem⟩
            rw [Nat.add_right_comm]
            rfl

/-- Places are in order when those of each item are: the positions of
later items are greater. -/
theorem pairwise_placedAmong
    (each : ∀ a ∈ as, (f a).Pairwise fun x y => x.1 < y.1) :
    (placedAmong f i as).Pairwise fun x y => x.1 < y.1 := by
  induction as generalizing i with
  | nil => exact .nil
  | cons a as ih =>
      rw [List.forall_mem_cons] at each
      rw [placedAmong, List.pairwise_append, List.pairwise_map]
      refine ⟨?_, ih each.2, ?_⟩
      · exact each.1.imp fun hlt =>
          List.cons_lt_cons_iff.mpr (.inr ⟨rfl, hlt⟩)
      · -- the first position decides, as that of the later item is greater
        intro x hx y hy
        obtain ⟨x', -, rfl⟩ := List.mem_map.mp hx
        obtain ⟨j, -, rest, -, hplace, -⟩ := mem_placedAmong.mp hy
        rw [hplace]
        exact List.cons_lt_cons_iff.mpr (.inl (by omega))

end Among

namespace Event

mutual

/-- The start markers of an event with their places, in depth-first
order. -/
def placed : Event → List (List Nat × ExprStart)
  | .scope _ _ events => placedIn 0 events
  | .marker (.start e) => [([], e)]
  | .marker (.done _) => []

/-- The start markers of a list of events with their places, the first
event being at the position `i`. -/
def placedIn (i : Nat) : List Event → List (List Nat × ExprStart)
  | [] => []
  | event :: events =>
    (placed event).map (fun x => (i :: x.1, x.2)) ++ placedIn (i + 1) events

end

@[simp]
theorem placedIn_eq (i : Nat) (es : List Event) :
    placedIn i es = placedAmong placed i es := by
  induction es generalizing i with
  | nil => rfl
  | cons event es ih => rw [placedIn, placedAmong, ih]

theorem startsIn_eq_flatMap (es : List Event) :
    startsIn es = es.flatMap starts := by
  induction es with
  | nil => rfl
  | cons event es ih => rw [startsIn, ih, List.flatMap_cons]

/-- The walk comes to the start markers, in their order. -/
@[simp]
theorem map_snd_placed (event : Event) :
    (placed event).map Prod.snd = starts event := by
  induction event using induction_on with
  | marker m => cases m <;> rfl
  | scope lines bindings events ih =>
      rw [placed, placedIn_eq, map_snd_placedAmong, starts,
        startsIn_eq_flatMap]
      exact List.flatMap_congr ih

/-- The walk comes to each start marker at its place. -/
theorem mem_placed {event : Event} {place : List Nat} {e : ExprStart} :
    (place, e) ∈ placed event ↔ event.StartAt e place := by
  induction event using induction_on generalizing place with
  | marker m =>
      constructor
      · intro hmem
        cases m with
        | start e' =>
            cases List.mem_singleton.mp hmem
            exact .here
        | done d => cases hmem
      · intro h
        cases h
        exact List.mem_singleton_self _
  | scope lines bindings events ih =>
      rw [placed, placedIn_eq, mem_placedAmong]
      constructor
      · intro hyp
        obtain ⟨i, event, rest, hevent, rfl, hmem⟩ := hyp
        rw [Nat.zero_add]
        exact .inside hevent ((ih event (List.mem_of_getElem? hevent)).mp hmem)
      · intro h
        cases h with
        | @inside _ _ _ event i rest hevent below =>
            refine ⟨i, event, rest, hevent, by rw [Nat.zero_add], ?_⟩
            exact (ih event (List.mem_of_getElem? hevent)).mpr below

/-- The walk comes to places in ascending order. -/
theorem pairwise_placed (event : Event) :
    (placed event).Pairwise fun x y => x.1 < y.1 := by
  induction event using induction_on with
  | marker m => cases m <;> simp [placed]
  | scope lines bindings events ih =>
      rw [placed, placedIn_eq]
      exact pairwise_placedAmong ih

end Event

namespace Index

/-- The start markers of an index with their properties and their places,
in depth-first order. -/
def placed (ix : Index) : List (List Nat × Property × ExprStart) :=
  placedAmong (fun p => (Event.placedIn 0 p.events).map
    fun x => (x.1, p, x.2)) 0 ix.properties

/-- The walk through an index comes to places in ascending order. -/
theorem pairwise_placed (ix : Index) :
    ix.placed.Pairwise fun x y => x.1 < y.1 := by
  refine pairwise_placedAmong fun p _ => ?_
  rw [List.pairwise_map, Event.placedIn_eq]
  exact pairwise_placedAmong fun event _ => event.pairwise_placed

/-- The walk through an index comes to each start marker at its place. -/
theorem mem_placed {ix : Index} {place : List Nat} {p : Property}
    {e : ExprStart} : (place, p, e) ∈ ix.placed ↔ ix.StartAt p e place := by
  unfold placed
  rw [mem_placedAmong]
  constructor
  · intro hyp
    obtain ⟨i, p', rest, hp, rfl, hmem⟩ := hyp
    obtain ⟨⟨rest', e'⟩, hevents, heq⟩ := List.mem_map.mp hmem
    cases heq
    rw [Event.placedIn_eq, mem_placedAmong] at hevents
    obtain ⟨j, event, below, hevent, rfl, hstart⟩ := hevents
    rw [Nat.zero_add, Nat.zero_add]
    exact .mk hp hevent (Event.mem_placed.mp hstart)
  · intro h
    obtain ⟨hp, hevent, below⟩ := h
    rename_i event i j rest
    refine ⟨i, p, j :: rest, hp, by rw [Nat.zero_add], ?_⟩
    refine List.mem_map.mpr ⟨(j :: rest, e), ?_, rfl⟩
    rw [Event.placedIn_eq, mem_placedAmong]
    exact ⟨j, event, rest, hevent, by rw [Nat.zero_add],
      Event.mem_placed.mpr below⟩

/-- The walk through an index comes to the start markers of its
properties, in order. -/
@[simp]
theorem map_snd_placed (ix : Index) :
    ix.placed.map Prod.snd =
      ix.properties.flatMap fun p => p.starts.map fun e => (p, e) := by
  unfold placed
  rw [map_snd_placedAmong]
  refine List.flatMap_congr fun p _ => ?_
  have hevents : (Event.placedIn 0 p.events).map Prod.snd = p.starts := by
    rw [Event.placedIn_eq, map_snd_placedAmong]
    exact (List.flatMap_congr fun event _ => event.map_snd_placed).trans
      (Event.startsIn_eq_flatMap p.events).symm
  rw [List.map_map, ← hevents, List.map_map]
  rfl

-- ======================================================= what is found

/-- The start markers at a location are those of the walk that have a
matching one. -/
theorem startsAt_eq_filter (ix : Index) (query : SpecLocation) :
    ix.startsAt query =
      (ix.placed.map Prod.snd).filter
        fun pe => pe.2.sloc.any (·.isMatch query) := by
  rw [map_snd_placed, List.filter_flatMap]
  refine List.flatMap_congr fun p _ => ?_
  rw [List.filter_map]
  rfl

/-- The matches of a query stand for the start markers at the places of
an ascending list, and these are all the places of markers that the query
matches. -/
theorem exists_places (ix : Index) (query : SpecLocation) :
    ∃ places : List (List Nat), places.Pairwise (· < ·) ∧
      (∀ place, place ∈ places ↔ ∃ p e sloc, ix.StartAt p e place ∧
        e.sloc = some sloc ∧ sloc.isMatch query = true) ∧
      List.Forall₂ (fun place m => ∃ e, ix.StartAt m.property e place ∧
        e.sloc = some m.sloc ∧ m.line = e.line) places
        (ix.findMatches query) := by
  -- of the walk with its places, the markers that the query matches
  let found := ix.placed.filter fun x => x.2.2.sloc.any (·.isMatch query)
  have hfound : ∀ x ∈ found, ix.StartAt x.2.1 x.2.2 x.1 :=
    fun x hx => mem_placed.mp (List.mem_filter.mp hx).1
  refine ⟨found.map Prod.fst, ?_, ?_, ?_⟩
  · rw [List.pairwise_map]
    exact ix.pairwise_placed.filter _
  · intro place
    constructor
    · intro hplace
      obtain ⟨x, hx, rfl⟩ := List.mem_map.mp hplace
      obtain ⟨sloc, hsloc, hmatch⟩ :=
        (Option.any_eq_true _ _).mp (List.mem_filter.mp hx).2
      exact ⟨x.2.1, x.2.2, sloc, hfound x hx, hsloc, hmatch⟩
    · intro hyp
      obtain ⟨p, e, sloc, hat, hsloc, hmatch⟩ := hyp
      refine List.mem_map.mpr ⟨(place, p, e), ?_, rfl⟩
      refine List.mem_filter.mpr ⟨mem_placed.mpr hat, ?_⟩
      rw [hsloc]
      exact hmatch
  · have hstarts : ix.startsAt query = found.map Prod.snd := by
      rw [startsAt_eq_filter, List.filter_map]
      rfl
    have hmatches := (ix.forall₂_findMatches query).flip
    rw [hstarts, List.forall₂_map_left_iff] at hmatches
    rw [List.forall₂_map_left_iff]
    refine ((List.forall₂_and_left _ _).mpr ⟨hfound, hmatches⟩).imp ?_
    intro x m hyp
    obtain ⟨hat, hproperty, hsloc, hline⟩ := hyp
    rw [← hproperty] at hat
    exact ⟨x.2.2, hat, hsloc, hline⟩

end Index

/-- Filtering the matches of a query by a stronger one leaves the matches
of that one. -/
theorem Property.matchesOf_eq_filter (p : Property)
    {refined query : SpecLocation} (stronger : refined.isMatch query = true) :
    p.matchesOf refined =
      (p.matchesOf query).filter (·.sloc.isMatch refined) := by
  unfold matchesOf
  rw [List.filter_filterMap]
  refine List.filterMap_congr fun e _ => ?_
  rcases e.sloc with _ | sloc
  · rfl
  · dsimp only
    by_cases hrefined : sloc.isMatch refined = true
    · have hquery := SpecLocation.isMatch_trans hrefined stronger
      rw [if_pos hrefined, if_pos hquery, Option.filter_some, if_pos hrefined]
    · rw [if_neg hrefined]
      split
      · rw [Option.filter_some, if_neg hrefined]
      · rfl

/-- The matches of a stronger query are those of a weaker one that it
asks for. -/
theorem Index.findMatches_eq_filter (ix : Index)
    {refined query : SpecLocation} (stronger : refined.isMatch query = true) :
    ix.findMatches refined =
      (ix.findMatches query).filter (·.sloc.isMatch refined) := by
  unfold findMatches
  rw [List.filter_flatMap]
  exact List.flatMap_congr fun p _ => p.matchesOf_eq_filter stronger

/-- Matching is reflexive and transitive, and locations match each other
exactly when they have the same line, column and discriminator and the
same path. For any index, the matches of a query stand, in this order,
for the start markers at ascending places, namely at all the places of
markers whose location matches the query; and the matches of a location
that matches the query are some of the query's, in the same order. -/
theorem matching_refines :
    (∀ l : SpecLocation, l.isMatch l = true) ∧
    (∀ a b c : SpecLocation, a.isMatch b = true → b.isMatch c = true →
      a.isMatch c = true) ∧
    (∀ a b : SpecLocation, a.isMatch b = true ∧ b.isMatch a = true ↔
      a.line = b.line ∧ a.column = b.column ∧
        a.discriminator = b.discriminator ∧
        FilePath.same a.file b.file = true) ∧
    ∀ (ix : Index) (query : SpecLocation),
      (∃ places : List (List Nat), places.Pairwise (· < ·) ∧
        (∀ place, place ∈ places ↔ ∃ p e sloc, ix.StartAt p e place ∧
          e.sloc = some sloc ∧ sloc.isMatch query = true) ∧
        List.Forall₂ (fun place m => ∃ e, ix.StartAt m.property e place ∧
          e.sloc = some m.sloc ∧ m.line = e.line) places
          (ix.findMatches query)) ∧
      ∀ refined : SpecLocation, refined.isMatch query = true →
        (ix.findMatches refined).Sublist (ix.findMatches query) := by
  refine ⟨SpecLocation.isMatch_self,
    fun _ _ _ => SpecLocation.isMatch_trans,
    fun _ _ => SpecLocation.isMatch_and_isMatch_iff, ?_⟩
  intro ix query
  refine ⟨ix.exists_places query, ?_⟩
  intro refined stronger
  rw [ix.findMatches_eq_filter stronger]
  exact List.filter_sublist

/-- Two expressions of the specimen stand on line 7 of the file, and one of
them in column 9; what asks for more than that column asks for the line
as well. -/
theorem matching_refines_specimen :
    let query : SpecLocation := ⟨"spec.py/", 7, none, none⟩
    let refined : SpecLocation := ⟨"spec.py", 7, some 9, none⟩
    let precise : SpecLocation := ⟨"lib/./spec.py", 7, some 9, some 2⟩
    precise.isMatch refined = true ∧ refined.isMatch query = true ∧
      precise.isMatch query = true ∧
      (Index.specimen.findMatches query).map (·.line) = [24, 32] ∧
      (Index.specimen.findMatches refined).map (·.line) = [32] ∧
      (Index.specimen.findMatches refined).Sublist
        (Index.specimen.findMatches query) := by
  intro query refined precise
  have hprecise : precise.isMatch refined = true := by decide
  have hrefined : refined.isMatch query = true := by decide
  obtain ⟨-, htrans, -, hindex⟩ := matching_refines
  obtain ⟨-, hsublist⟩ := hindex Index.specimen query
  exact ⟨hprecise, hrefined, htrans _ _ _ hprecise hrefined, by decide,
    by decide, hsublist refined hrefined⟩

end SpecDebugger
