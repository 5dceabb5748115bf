/-
Which properties an index is built from, and what its table of names is
then good for.

The check of an index is a single pass that reports the first fault it
meets: it walks the tree of every property, and enters the names in a
table on the way, in which it finds the duplicates. Whether it passes can
be told without any of this (`accepts_iff`): the names are distinct in
lower case, every scope that can be reached from a body by going into
nested scopes (`Scope.IsIn`) has lines and keeps its nested scopes and its
markers on them, and the memoization ranges lie in the bodies.

Of the table the pass keeps one invariant: it has an entry for each
property so far, under its lower-cased name, and no other
(`checkProperties_eq_ok`). So a name that is looked up leads to a
position in the list, and the property there is the one of the name.
-/
import Mathlib.Logic.Relation
import SpecDebugger.Proofs.Index.Order

namespace SpecDebugger

-- ================================================ statement vocabulary

/-- Whether a scope is another one, or is nested in it at any depth. -/
def Scope.IsIn (t s : Scope) : Prop :=
  Relation.ReflTransGen (fun outer inner => inner ∈ outer.nested) s t

-- ============================================================= the tree

/-- A scope at any depth is in one of those at the top. -/
theorem Event.exists_isIn_of_mem_scopesIn {es : List Event} {t : Scope}
    (ht : t ∈ scopesIn es) : ∃ s ∈ es.filterMap scope?, t.IsIn s := by
  induction es using Event.nesting with
  | nil => cases ht
  | marker m es ih => exact ih ht
  | scope lines bindings events es ihEvents ihEs =>
      let s : Scope := ⟨lines, bindings, events⟩
      have hes : (.scope lines bindings events :: es : List Event).filterMap
          scope? = s :: es.filterMap scope? := rfl
      rw [hes]
      rcases List.mem_append.mp ht with ht | ht
      · refine ⟨s, List.mem_cons_self, ?_⟩
        rcases List.mem_cons.mp ht with rfl | ht
        · exact .refl
        · obtain ⟨u, hu, hut⟩ := ihEvents ht
          exact .head hu hut
      · obtain ⟨u, hu, hut⟩ := ihEs ht
        exact ⟨u, List.mem_cons_of_mem _ hu, hut⟩

/-- The tree of a scope lists what is in it. -/
theorem Scope.mem_tree_iff {s t : Scope} : t ∈ s.tree ↔ t.IsIn s := by
  constructor
  · intro ht
    rcases List.mem_cons.mp ht with rfl | ht
    · exact .refl
    · obtain ⟨u, hu, hut⟩ := Event.exists_isIn_of_mem_scopesIn ht
      exact .head hu hut
  · intro hin
    induction hin using Relation.ReflTransGen.head_induction_on with
    | refl => exact t.mem_tree_self
    | head hnested _ ih =>
        rw [tree_eq]
        exact List.mem_cons_of_mem _ (List.mem_flatMap.mpr ⟨_, hnested, ih⟩)

/-- Soundness, by the kinds of events. -/
theorem Scope.sound_iff_nested_marker {s : Scope} :
    s.Sound ↔ s.lines.first ≤ s.lines.last ∧
      (∀ t ∈ s.nested,
        s.lines.first ≤ t.lines.first ∧ t.lines.last ≤ s.lines.last) ∧
      ∀ m, .marker m ∈ s.events →
        s.lines.first ≤ m.line ∧ m.line ≤ s.lines.last := by
  rw [sound_iff]
  apply and_congr_right
  intro _
  constructor
  · intro hencloses
    constructor
    · intro t ht
      exact LineRange.encloses_iff.mp (hencloses _ (mem_nested.mp ht))
    · intro m hm
      exact LineRange.encloses_iff.mp (hencloses _ hm)
  · intro hyp
    obtain ⟨hnested, hmarkers⟩ := hyp
    intro e he
    apply LineRange.encloses_iff.mpr
    cases e with
    | scope lines bindings events =>
        exact hnested ⟨lines, bindings, events⟩ (mem_nested.mpr he)
    | marker m => exact hmarkers m he

namespace Index

-- ============================================================ the answer

/-- An index is accepted exactly when its properties are well formed. -/
theorem exists_build_iff {filename : String} {properties : List Property} :
    (∃ ix, build filename properties = .ok ix) ↔ WellFormed properties := by
  constructor
  · intro hyp
    obtain ⟨ix, hix⟩ := hyp
    exact (build_eq_ok_iff.mp hix).2
  · intro wf
    exact ⟨_, build_eq_ok_iff.mpr ⟨rfl, wf⟩⟩

/-- A name that is not found is no property's name, in any case. -/
theorem findByName?_eq_none_iff {filename : String}
    {properties : List Property} {ix : Index}
    (accepted : build filename properties = .ok ix) {name : String} :
    ix.findByName? name = none ↔
      ∀ p ∈ ix.properties, Text.lower p.name ≠ Text.lower name := by
  rw [Option.eq_none_iff_forall_ne_some]
  constructor
  · intro hnone p hp hname
    exact hnone p ((findByName?_eq_some_iff accepted).mpr ⟨hp, hname⟩)
  · intro hall p hp
    obtain ⟨hmem, hname⟩ := (findByName?_eq_some_iff accepted).mp hp
    exact hall p hmem hname

/-- On any file name and any properties, an index is built exactly when
the names are distinct in lower case, every scope in the body of a
property, at every depth, has lines and holds its nested scopes and its
markers on them, and every memoization range lies in the body. The index
has the properties as they were given and in their order. Its table has
the position of each of them under its lower-cased name and nothing else,
so that a name in any case leads to the property that has it, and to none
when there is none. -/
theorem accepts_iff (filename : String) (properties : List Property) :
    ((∃ ix, build filename properties = .ok ix) ↔
      (properties.map fun p => Text.lower p.name).Nodup ∧
      (∀ p ∈ properties, ∀ s : Scope, s.IsIn p.toScope →
        s.lines.first ≤ s.lines.last ∧
        (∀ t ∈ s.nested,
          s.lines.first ≤ t.lines.first ∧ t.lines.last ≤ s.lines.last) ∧
        ∀ m, .marker m ∈ s.events →
          s.lines.first ≤ m.line ∧ m.line ≤ s.lines.last) ∧
      ∀ p ∈ properties, ∀ r, p.memoization = some r →
        p.lines.first ≤ r.first ∧ r.last ≤ p.lines.last) ∧
    ∀ ix, build filename properties = .ok ix →
      ix.filename = filename ∧ ix.properties = properties ∧
      (∀ key i, ix.names.lookup key = some i ↔
        ∃ p, properties[i]? = some p ∧ Text.lower p.name = key) ∧
      ∀ name,
        (∀ p, ix.findByName? name = some p ↔
          p ∈ properties ∧ Text.lower p.name = Text.lower name) ∧
        (ix.findByName? name = none ↔
          ∀ p ∈ properties, Text.lower p.name ≠ Text.lower name) := by
  constructor
  · rw [exists_build_iff]
    simp only [← Scope.sound_iff_nested_marker, ← Scope.mem_tree_iff]
    constructor
    · intro wf
      refine ⟨wf.names, wf.sound, ?_⟩
      intro p hp r hr
      exact LineRange.encloses_iff.mp (wf.memoization p hp r hr)
    · intro hyp
      obtain ⟨hnames, hsound, hmemoization⟩ := hyp
      refine ⟨hnames, hsound, ?_⟩
      intro p hp r hr
      exact LineRange.encloses_iff.mpr (hmemoization p hp r hr)
  · intro ix accepted
    obtain ⟨heq, -⟩ := build_eq_ok_iff.mp accepted
    have hproperties : ix.properties = properties :=
      congrArg Index.properties heq
    refine ⟨congrArg Index.filename heq, hproperties, ?_, ?_⟩
    · intro key i
      rw [← hproperties]
      exact lookup_names_eq_some_iff accepted
    · intro name
      rw [← hproperties]
      exact ⟨fun p => findByName?_eq_some_iff accepted,
        findByName?_eq_none_iff accepted⟩

/-- A marker has to lie on the lines of the scope that holds it; those of
the property are not enough. -/
example :
    let stray : Property :=
      { name := "p"
        lines := ⟨1, 9⟩
        events := [.scope ⟨2, 4⟩ [] [.marker (.done ⟨1, 5⟩)]] }
    build "gen.adb" [stray] = .error (.strayMarker 5 "p" ⟨2, 4⟩) := rfl

end Index

end SpecDebugger
