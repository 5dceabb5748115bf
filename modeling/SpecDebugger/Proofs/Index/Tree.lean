/-
The scope tree of a property, and what the index check says about it.

`Scope.tree` lists a scope and every scope nested in it, at any depth,
in depth-first order. Two things are stated over this list.

- Soundness. `Scope.Sound` looks at one scope alone: it has lines, and
  its events lie on them. The check of an index walks the tree; what it
  accepts is exactly a list of properties with distinct names all of
  whose scopes are sound (`build_eq_ok_iff`).
- Inclusion. Sound scopes stay within the lines of the scope they are
  nested in, however deep (`encloses_of_mem_tree`), so a frame inside a
  scope is inside every scope around it.

Inductions over the tree are inductions over lists of events
(`Event.nesting`): the events of a nested scope and the events after it
are both smaller than the list that starts with the scope.
-/
import Mathlib.Data.List.Nodup
import SpecDebugger.Index.Basic
import SpecDebugger.Proofs.Results

namespace SpecDebugger

-- ==================================================== single events

namespace Event

/-- The lines an event takes up: a marker its own line, a nested scope
all of its lines. -/
def span : Event → LineRange
  | .scope lines _ _ => lines
  | .marker m => ⟨m.line, m.line⟩

/-- The scope that an event is. -/
def scope? : Event → Option Scope
  | .scope lines bindings events => some ⟨lines, bindings, events⟩
  | .marker _ => none

def start? : Event → Option ExprStart
  | .marker (.start e) => some e
  | _ => none

def done? : Event → Option ExprDone
  | .marker (.done d) => some d
  | _ => none

@[simp]
theorem scope?_eq_some {e : Event} {s : Scope} :
    e.scope? = some s ↔ e = .scope s.lines s.bindings s.events := by
  cases e with
  | scope lines bindings events =>
      simp only [scope?, Option.some.injEq, scope.injEq]
      constructor
      · intro heq
        subst heq
        exact ⟨rfl, rfl, rfl⟩
      · intro hyp
        obtain ⟨rfl, rfl, rfl⟩ := hyp
        rfl
  | marker m => simp [scope?]

@[simp]
theorem start?_eq_some {e : Event} {m : ExprStart} :
    e.start? = some m ↔ e = .marker (.start m) := by
  cases e with
  | scope lines bindings events => simp [start?]
  | marker m => cases m <;> simp [start?]

@[simp]
theorem done?_eq_some {e : Event} {m : ExprDone} :
    e.done? = some m ↔ e = .marker (.done m) := by
  cases e with
  | scope lines bindings events => simp [done?]
  | marker m => cases m <;> simp [done?]

end Event

namespace Scope

/-- The scopes directly nested in a scope. -/
def nested (s : Scope) : List Scope := s.events.filterMap Event.scope?

/-- The start markers directly held by a scope. -/
def ownStarts (s : Scope) : List ExprStart := s.events.filterMap Event.start?

def ownDones (s : Scope) : List ExprDone := s.events.filterMap Event.done?

/-- The nested scopes are the events that are scopes. -/
@[simp]
theorem mem_nested {s t : Scope} :
    t ∈ s.nested ↔ .scope t.lines t.bindings t.events ∈ s.events := by
  simp [nested]

/-- The start markers of a scope itself are events of it. -/
@[simp]
theorem mem_ownStarts {s : Scope} {e : ExprStart} :
    e ∈ s.ownStarts ↔ .marker (.start e) ∈ s.events := by
  simp [ownStarts]

@[simp]
theorem mem_ownDones {s : Scope} {d : ExprDone} :
    d ∈ s.ownDones ↔ .marker (.done d) ∈ s.events := by
  simp [ownDones]

end Scope

-- ========================================================= the tree

/-- Induction over the events of a scope and of the scopes nested in
it. -/
@[elab_as_elim]
theorem Event.nesting {motive : List Event → Prop} (nil : motive [])
    (marker : ∀ m es, motive es → motive (.marker m :: es))
    (scope : ∀ lines bindings events es, motive events → motive es →
      motive (.scope lines bindings events :: es)) :
    ∀ es, motive es
  | [] => nil
  | .marker m :: es => marker m es (Event.nesting nil marker scope es)
  | .scope lines bindings events :: es =>
    scope lines bindings events es (Event.nesting nil marker scope events)
      (Event.nesting nil marker scope es)

/-- Induction over an event: a scope has what all its events have. -/
@[elab_as_elim]
theorem Event.induction_on {motive : Event → Prop}
    (marker : ∀ m, motive (.marker m))
    (scope : ∀ lines bindings events, (∀ event ∈ events, motive event) →
      motive (.scope lines bindings events))
    (event : Event) : motive event := by
  have hall : ∀ es : List Event, ∀ event ∈ es, motive event := by
    intro es
    induction es using Event.nesting with
    | nil => exact List.forall_mem_nil _
    | marker m es ih => exact List.forall_mem_cons.mpr ⟨marker m, ih⟩
    | scope lines bindings events es ihEvents ih =>
        exact List.forall_mem_cons.mpr
          ⟨scope lines bindings events ihEvents, ih⟩
  exact hall [event] event List.mem_cons_self

namespace Event

mutual

/-- The scope that an event is and every scope nested in it, at any
depth, each before those nested in it. -/
def scopes : Event → List Scope
  | .scope lines bindings events =>
    ⟨lines, bindings, events⟩ :: scopesIn events
  | .marker _ => []

/-- The scopes of a list of events, at any depth. -/
def scopesIn : List Event → List Scope
  | [] => []
  | e :: es => scopes e ++ scopesIn es

end

end Event

/-- A scope and every scope nested in it, at any depth, each before
those nested in it. -/
def Scope.tree (s : Scope) : List Scope := s :: Event.scopesIn s.events

theorem Scope.mem_tree_self (s : Scope) : s ∈ s.tree := List.mem_cons_self

/-- The scopes below events are the trees of those at the top. -/
theorem Event.scopesIn_eq_flatMap (es : List Event) :
    scopesIn es = (es.filterMap scope?).flatMap Scope.tree := by
  induction es with
  | nil => rfl
  | cons e es ih =>
      cases e with
      | marker m =>
          rw [scopesIn, scopes, List.nil_append, ih]
          rfl
      | scope lines bindings events =>
          simp [scopesIn, scopes, scope?, Scope.tree, ih]

/-- A tree is its root and the trees of the scopes nested in it. -/
theorem Scope.tree_eq (s : Scope) :
    s.tree = s :: s.nested.flatMap Scope.tree := by
  rw [Scope.tree, Event.scopesIn_eq_flatMap]
  rfl

/-- A scope below events is in the tree of one at the top. -/
theorem Event.mem_scopesIn {es : List Event} {t : Scope} :
    t ∈ scopesIn es ↔ ∃ e ∈ es, ∃ s, e.scope? = some s ∧ t ∈ s.tree := by
  rw [scopesIn_eq_flatMap]
  simp only [List.mem_flatMap, List.mem_filterMap]
  constructor
  · intro hyp
    obtain ⟨s, ⟨e, he, hs⟩, ht⟩ := hyp
    exact ⟨e, he, s, hs, ht⟩
  · intro hyp
    obtain ⟨e, he, s, hs, ht⟩ := hyp
    exact ⟨s, ⟨e, he, hs⟩, ht⟩

/-- The start markers below a list of events are the ones in it and
those its scopes hold. -/
theorem Event.mem_startsIn {es : List Event} {e : ExprStart} :
    e ∈ startsIn es ↔
      .marker (.start e) ∈ es ∨ ∃ t ∈ scopesIn es, e ∈ t.ownStarts := by
  induction es using Event.nesting with
  | nil => simp [startsIn, scopesIn]
  | marker m es ih =>
      cases m with
      | start e' =>
          simp [startsIn, Event.starts, scopesIn, scopes, ih, or_assoc]
      | done d => simp [startsIn, Event.starts, scopesIn, scopes, ih]
  | scope lines bindings events es ihEvents ihEs =>
      simp only [startsIn, Event.starts, scopesIn, scopes, List.mem_append,
        List.cons_append, List.mem_cons, or_and_right, exists_or,
        exists_eq_left, Scope.mem_ownStarts, reduceCtorEq, false_or, ihEvents,
        ihEs]
      constructor
      · intro hyp
        rcases hyp with (h | h) | h | h
        · exact .inr (.inl h)
        · exact .inr (.inr (.inl h))
        · exact .inl h
        · exact .inr (.inr (.inr h))
      · intro hyp
        rcases hyp with h | h | h | h
        · exact .inr (.inl h)
        · exact .inl (.inl h)
        · exact .inl (.inr h)
        · exact .inr (.inr h)

/-- The start markers of a property are those its scopes hold. -/
theorem Property.mem_starts_tree {p : Property} {e : ExprStart} :
    e ∈ Event.startsIn p.events ↔ ∃ t ∈ p.toScope.tree, e ∈ t.ownStarts := by
  rw [Event.mem_startsIn, Scope.tree]
  simp

-- ======================================================== soundness

/-- A scope is sound when it has lines and its events lie on them. -/
structure Scope.Sound (s : Scope) : Prop where
  first_le_last : s.lines.first ≤ s.lines.last
  encloses : ∀ e ∈ s.events, s.lines.encloses e.span = true

/-- Soundness is two checks, one of the lines and one of the events. -/
theorem Scope.sound_iff {s : Scope} :
    s.Sound ↔ s.lines.first ≤ s.lines.last ∧
      ∀ e ∈ s.events, s.lines.encloses e.span = true :=
  ⟨fun h => ⟨h.first_le_last, h.encloses⟩, fun h => ⟨h.1, h.2⟩⟩

/-- Sound scopes lie within the range that encloses the events they
come from. -/
theorem Event.encloses_of_mem_scopesIn {range : LineRange} {es : List Event}
    (sound : ∀ t ∈ scopesIn es, t.Sound)
    (within : ∀ e ∈ es, range.encloses e.span = true) :
    ∀ t ∈ scopesIn es, range.encloses t.lines = true := by
  induction es using Event.nesting generalizing range with
  | nil => simp [scopesIn]
  | marker m es ih =>
      simp only [scopesIn, scopes, List.nil_append] at sound ⊢
      exact ih sound fun e he => within e (List.mem_cons_of_mem _ he)
  | scope lines bindings events es ihEvents ihEs =>
      simp only [scopesIn, scopes, List.cons_append, List.forall_mem_cons,
        List.forall_mem_append] at sound within ⊢
      obtain ⟨hself, hevents, hes⟩ := sound
      refine ⟨within.1, ?_, ihEs hes within.2⟩
      intro t ht
      have hroot := within.1
      have hin : lines.encloses t.lines = true :=
        ihEvents hevents hself.encloses t ht
      rw [Event.span, LineRange.encloses_iff] at hroot
      rw [LineRange.encloses_iff] at hin ⊢
      omega

/-- The scopes of a sound tree lie within the lines of its root. -/
theorem Scope.encloses_of_mem_tree {s t : Scope}
    (sound : ∀ u ∈ s.tree, u.Sound) (ht : t ∈ s.tree) :
    s.lines.encloses t.lines = true := by
  rcases List.mem_cons.mp ht with rfl | ht
  · simp [LineRange.encloses]
  · exact Event.encloses_of_mem_scopesIn
      (fun u hu => sound u (List.mem_cons_of_mem _ hu))
      (sound s s.mem_tree_self).encloses t ht

/-- The markers of a sound scope are on its lines. -/
theorem Scope.Sound.contains_marker {s : Scope} (hs : s.Sound) {m : Marker}
    (hm : .marker m ∈ s.events) : s.lines.contains m.line = true := by
  have h := hs.encloses _ hm
  rw [Event.span, LineRange.encloses_iff] at h
  rw [LineRange.contains_iff]
  exact h

-- ======================================================== the check

namespace Index

@[simp]
theorem checkLines_eq_ok {owner : String} {lines : LineRange} :
    checkLines owner lines = .ok () ↔ lines.first ≤ lines.last := by
  unfold checkLines
  split
  · simp
    omega
  · simp
    omega

/-- The events of a scope pass when they lie on its lines and every
scope below them is sound. -/
theorem checkEvents_eq_ok {owner : String} {parent : LineRange}
    {es : List Event} :
    checkEvents owner parent es = .ok () ↔
      (∀ e ∈ es, parent.encloses e.span = true) ∧
        ∀ t ∈ Event.scopesIn es, t.Sound := by
  induction es using Event.nesting generalizing parent with
  | nil => simp [checkEvents, Event.scopesIn]
  | marker m es ih =>
      have hm : parent.contains m.line = parent.encloses ⟨m.line, m.line⟩ := by
        simp [LineRange.contains, LineRange.encloses]
      rw [checkEvents, bind_unit_eq_ok, ih]
      simp only [checkEvent, hm, List.forall_mem_cons, Event.span,
        Event.scopesIn, Event.scopes, List.nil_append]
      split
      · simp [*]
      · simp [*]
  | scope lines bindings events es ihEvents ihEs =>
      rw [checkEvents, bind_unit_eq_ok, ihEs, checkEvent]
      simp only [List.forall_mem_cons, Event.span, Event.scopesIn,
        Event.scopes, List.cons_append, List.forall_mem_append]
      split
      next h =>
        rw [bind_unit_eq_ok, checkLines_eq_ok, ihEvents]
        constructor
        · intro hyp
          obtain ⟨⟨hlines, hevents, hbelow⟩, hes, hafter⟩ := hyp
          exact ⟨⟨h, hes⟩, ⟨hlines, hevents⟩, hbelow, hafter⟩
        · intro hyp
          obtain ⟨⟨-, hes⟩, ⟨hlines, hevents⟩, hbelow, hafter⟩ := hyp
          exact ⟨⟨hlines, hevents, hbelow⟩, hes, hafter⟩
      next h => simp [h]

/-- A property passes when its scopes are sound and its memoization
range lies within its body. -/
theorem checkProperty_eq_ok {p : Property} :
    checkProperty p = .ok () ↔
      (∀ s ∈ p.toScope.tree, s.Sound) ∧
        ∀ r, p.memoization = some r → p.lines.encloses r = true := by
  rw [checkProperty, bind_unit_eq_ok, bind_unit_eq_ok, checkLines_eq_ok,
    checkEvents_eq_ok, Scope.tree, List.forall_mem_cons, Scope.sound_iff,
    ← and_assoc, ← and_assoc]
  refine and_congr_right fun _ => ?_
  cases p.memoization with
  | none => simp [pure, Except.pure]
  | some r =>
      by_cases h : p.lines.encloses r = true
      · simp [h, pure, Except.pure]
      · simp [h, throw, throwThe, MonadExceptOf.throw]

/-- What the check of an index asks of a list of properties. -/
structure WellFormed (properties : List Property) : Prop where
  /-- No two names are the same in lower case. -/
  names : (properties.map fun p => Text.lower p.name).Nodup
  sound : ∀ p ∈ properties, ∀ s ∈ p.toScope.tree, s.Sound
  memoization : ∀ p ∈ properties, ∀ r, p.memoization = some r →
    p.lines.encloses r = true

/-- A property comes in front of well-formed ones when it has a name of
its own and is sound, and its memoization is inside. -/
theorem wellFormed_cons {p : Property} {ps : List Property} :
    WellFormed (p :: ps) ↔
      (∀ q ∈ ps, Text.lower q.name ≠ Text.lower p.name) ∧
        ((∀ s ∈ p.toScope.tree, s.Sound) ∧
          ∀ r, p.memoization = some r → p.lines.encloses r = true) ∧
        WellFormed ps := by
  constructor
  · intro hyp
    obtain ⟨hnames, hsound, hmemo⟩ := hyp
    rw [List.map_cons, List.nodup_cons, List.mem_map] at hnames
    rw [List.forall_mem_cons] at hsound hmemo
    exact ⟨fun q hq heq => hnames.1 ⟨q, hq, heq⟩, ⟨hsound.1, hmemo.1⟩,
      hnames.2, hsound.2, hmemo.2⟩
  · intro hyp
    obtain ⟨hfresh, ⟨hsound, hmemo⟩, hps⟩ := hyp
    refine ⟨?_, List.forall_mem_cons.mpr ⟨hsound, hps.sound⟩,
      List.forall_mem_cons.mpr ⟨hmemo, hps.memoization⟩⟩
    rw [List.map_cons, List.nodup_cons, List.mem_map]
    exact ⟨fun ⟨q, hq, heq⟩ => hfresh q hq heq, hps.names⟩

/-- The entries of properties in the order they are made, the first one
under the position `i`. -/
def entries (i : Nat) (ps : List Property) : NameTable :=
  (ps.zipIdx i).map fun e => (Text.lower e.1.name, e.2)

theorem lookup_cons_eq_none {table : NameTable} {name key : String} {i : Nat} :
    ((name, i) :: table).lookup key = none ↔
      key ≠ name ∧ table.lookup key = none := by
  simp [List.lookup_eq_none_iff]

/-- The properties after some others pass when they are well formed and
the table has none of their names; they are entered one by one. -/
theorem checkProperties_eq_ok {table names : NameTable} {i : Nat}
    {ps : List Property} :
    checkProperties table i ps = .ok names ↔
      (∀ p ∈ ps, table.lookup (Text.lower p.name) = none) ∧
        WellFormed ps ∧ names = (entries i ps).reverse ++ table := by
  induction ps generalizing table i with
  | nil =>
      have hwf : WellFormed [] := ⟨by simp, by simp, by simp⟩
      simp [checkProperties, entries, hwf, eq_comm]
  | cons p ps ih =>
      have hentries : (entries i (p :: ps)).reverse ++ table =
          (entries (i + 1) ps).reverse ++ (Text.lower p.name, i) :: table := by
        simp [entries]
      rw [checkProperties, List.forall_mem_cons, wellFormed_cons, hentries]
      rcases hname : table.lookup (Text.lower p.name) with _ | j
      · simp only [Option.isSome_none, Bool.false_eq_true, if_false]
        rw [bind_unit_eq_ok, checkProperty_eq_ok, ih]
        simp only [lookup_cons_eq_none, forall_and, true_and]
        constructor
        · intro hyp
          obtain ⟨hp, ⟨hne, hfresh⟩, hps, hnames⟩ := hyp
          exact ⟨hfresh, ⟨hne, hp, hps⟩, hnames⟩
        · intro hyp
          obtain ⟨hfresh, ⟨hne, hp, hps⟩, hnames⟩ := hyp
          exact ⟨hp, ⟨hne, hfresh⟩, hps, hnames⟩
      · simp [throw, throwThe, MonadExceptOf.throw, bind, Except.bind]

/-- An index is built exactly from well-formed properties, keeps them as
they are given, and has an entry for each of them. -/
theorem build_eq_ok_iff {filename : String} {properties : List Property}
    {ix : Index} :
    build filename properties = .ok ix ↔
      ix = ⟨filename, properties, (entries 0 properties).reverse⟩ ∧
        WellFormed properties := by
  have hcheck := fun names => @checkProperties_eq_ok [] names 0 properties
  simp only [List.lookup_nil, implies_true, true_and,
    List.append_nil] at hcheck
  rw [build]
  cases h : checkProperties [] 0 properties with
  | error fault =>
      have hnone : ¬WellFormed properties := by
        intro wf
        have hok := (hcheck _).mpr ⟨wf, rfl⟩
        rw [h] at hok
        cases hok
      simp [bind, Except.bind, hnone]
  | ok names =>
      obtain ⟨wf, rfl⟩ := (hcheck names).mp h
      simp [bind, Except.bind, pure, Except.pure, wf, eq_comm]

/-- What an index holds was checked. -/
theorem wellFormed_of_build {filename : String} {properties : List Property}
    {ix : Index} (accepted : build filename properties = .ok ix) :
    WellFormed ix.properties := by
  obtain ⟨rfl, hwf⟩ := build_eq_ok_iff.mp accepted
  exact hwf

-- ===================================================== the name table

/-- Every property is entered under its name in lower case, with its
position. -/
theorem mem_entries {ps : List Property} {key : String} {i : Nat} :
    (key, i) ∈ entries 0 ps ↔
      ∃ p, ps[i]? = some p ∧ Text.lower p.name = key := by
  simp [entries, List.mem_zipIdx_iff_getElem?]

/-- The names are distinct, so there is one position for each. -/
theorem WellFormed.position_unique {ps : List Property} (wf : WellFormed ps)
    {i j : Nat} {p q : Property} (hp : ps[i]? = some p) (hq : ps[j]? = some q)
    (same : Text.lower q.name = Text.lower p.name) : j = i := by
  have hnames : (ps.map fun p => Text.lower p.name)[j]? =
      (ps.map fun p => Text.lower p.name)[i]? := by
    rw [List.getElem?_map, List.getElem?_map, hq, hp]
    exact congrArg some same
  have hlt : j < (ps.map fun p => Text.lower p.name).length := by
    rw [List.length_map]
    exact (List.getElem?_eq_some_iff.mp hq).1
  exact (List.getElem?_inj hlt wf.names).mp hnames

/-- Under a name the table has the position of the property of that name,
and no other. -/
theorem lookup_names_eq_some_iff {filename : String}
    {properties : List Property} {ix : Index}
    (accepted : build filename properties = .ok ix) {key : String} {i : Nat} :
    ix.names.lookup key = some i ↔
      ∃ p, ix.properties[i]? = some p ∧ Text.lower p.name = key := by
  obtain ⟨rfl, wf⟩ := build_eq_ok_iff.mp accepted
  dsimp only
  have hfound : ∀ j, (entries 0 properties).reverse.lookup key = some j →
      ∃ p, properties[j]? = some p ∧ Text.lower p.name = key := by
    intro j hj
    obtain ⟨before, after, hentries, -⟩ := List.lookup_eq_some_iff.mp hj
    apply mem_entries.mp
    rw [← List.mem_reverse, hentries]
    exact List.mem_append_right _ List.mem_cons_self
  constructor
  · exact hfound i
  · intro hyp
    obtain ⟨p, hp, hkey⟩ := hyp
    have hsome :
        ((entries 0 properties).reverse.lookup key).isSome = true := by
      have hentry := List.mem_reverse.mpr (mem_entries.mpr ⟨p, hp, hkey⟩)
      exact List.lookup_isSome_iff.mpr ⟨_, hentry, beq_self_eq_true key⟩
    obtain ⟨j, hj⟩ := Option.isSome_iff_exists.mp hsome
    obtain ⟨q, hq, hqkey⟩ := hfound j hj
    rw [hj, wf.position_unique hp hq (hqkey.trans hkey.symm)]

/-- A name is found in any case, and no other property has it. -/
theorem findByName?_eq_some_iff {filename : String}
    {properties : List Property} {ix : Index}
    (accepted : build filename properties = .ok ix) {name : String}
    {p : Property} :
    ix.findByName? name = some p ↔
      p ∈ ix.properties ∧ Text.lower p.name = Text.lower name := by
  unfold findByName?
  simp only [Option.bind_eq_bind, Option.bind_eq_some_iff,
    lookup_names_eq_some_iff accepted, List.mem_iff_getElem?]
  constructor
  · intro hyp
    obtain ⟨i, ⟨q, hq, hname⟩, hp⟩ := hyp
    obtain rfl : q = p := Option.some.inj (hq.symm.trans hp)
    exact ⟨⟨i, hp⟩, hname⟩
  · intro hyp
    obtain ⟨⟨i, hp⟩, hname⟩ := hyp
    exact ⟨i, ⟨p, hp, hname⟩, hp⟩

end Index

end SpecDebugger
