/-
Where breaking leads. Resolving and decoding read the same tree in
different ways: resolving walks over all of it and answers a line,
decoding follows the scopes around a line and stops at the first event
that is not behind it. In an ordered index they agree: a frame on the
line that resolving answers is decoded as what was asked for.

# Why the walk arrives

On the line of a start marker, its own scope has everything up to the
marker behind it and nothing after. So the expression is the latest one
in flight there (`Scope.Tidy.current_start`), and there is no nested
scope to go into: the scope is the last one of the walk, and its
expression the innermost one (`Scope.Tidy.innermost?_start`). That the
walk gets to the scope at all is `Scope.active_eq_filter`.

On the first line of the first nested scope only markers are behind, and
the walk goes into that scope (`Scope.Tidy.active_firstNested`).
-/
import SpecDebugger.Proofs.Choice
import SpecDebugger.Proofs.Evaluation
import SpecDebugger.Proofs.Index.Order
import SpecDebugger.Proofs.LineLookup

namespace SpecDebugger

-- ================================================ at a start marker

/-- What begins after a line is not behind it. -/
theorem Event.isBehind_eq_false_of_lt {e : Event} {line : Nat}
    (proper : e.span.first ≤ e.span.last) (h : line < e.span.first) :
    e.isBehind line = false := by
  rcases hbehind : e.isBehind line with _ | _
  · rfl
  · have := span_last_le_of_isBehind hbehind
    omega

/-- A line before an event is in none of its scopes. -/
theorem Event.around?_eq_none_of_lt {e : Event} {line : Nat}
    (h : line < e.span.first) : e.around? line = none := by
  cases e with
  | marker m => rfl
  | scope lines bindings events =>
      apply if_neg
      have hfirst : line < lines.first := h
      rw [LineRange.contains_iff]
      omega

namespace Scope.Tidy

variable {s : Scope}

/-- What comes before an event that begins by a line is behind it. -/
theorem isBehind_before (h : s.Tidy) {before after : List Event} {e : Event}
    (hevents : s.events = before ++ e :: after) {line : Nat}
    (hline : e.span.first ≤ line) : ∀ b ∈ before, b.isBehind line = true := by
  have hpairwise := h.pairwise
  rw [hevents, List.pairwise_append] at hpairwise
  intro b hb
  have hlt : b.span.last < e.span.first :=
    hpairwise.2.2 b hb e List.mem_cons_self
  exact Event.isBehind_of_span_last_lt (by omega)

/-- On the line of an own marker everything up to the marker is behind,
and there is no nested scope to go into. -/
theorem behind_marker (h : s.Tidy) {m : Marker}
    (hm : Event.marker m ∈ s.events) :
    (∃ before, s.behind m.line = before ++ [.marker m]) ∧
      s.inner? m.line = none := by
  obtain ⟨before, after, hevents⟩ := List.append_of_mem hm
  have hbehind : ∀ e ∈ before, e.isBehind m.line = true :=
    h.isBehind_before hevents (Nat.le_refl _)
  have hself : Event.isBehind m.line (.marker m) = true := by simp
  unfold behind inner?
  rw [hevents, List.takeWhile_append_of_pos hbehind,
    List.dropWhile_append_of_pos hbehind,
    List.takeWhile_cons_of_pos hself, List.dropWhile_cons_of_pos hself]
  cases after with
  | nil => exact ⟨⟨before, rfl⟩, rfl⟩
  | cons e es =>
      -- the walk stops at `e`, which begins after the marker
      have hpairwise := h.pairwise
      rw [hevents, List.pairwise_append, List.pairwise_cons] at hpairwise
      have hlt : m.line < e.span.first :=
        hpairwise.2.1.1 e List.mem_cons_self
      have hproper : e.span.first ≤ e.span.last := by
        apply h.span_first_le_last
        rw [hevents]
        simp
      have hnot := Event.isBehind_eq_false_of_lt hproper hlt
      rw [List.takeWhile_cons_of_neg (by rw [hnot]; simp),
        List.dropWhile_cons_of_neg (by rw [hnot]; simp)]
      exact ⟨⟨before, rfl⟩, Event.around?_eq_none_of_lt hlt⟩

/-- On the line of an own start marker that expression is being
evaluated. -/
theorem current_start (h : s.Tidy) {e : ExprStart} (he : e ∈ s.ownStarts) :
    (ScopeState.analyze s e.line).current = some e := by
  obtain ⟨⟨before, hbehind⟩, -⟩ := h.behind_marker (mem_ownStarts.mp he)
  have hline : s.behind e.line = before ++ [.marker (.start e)] := hbehind
  show (Evaluation.ofEvents (s.behind e.line)).current? = some e
  rw [hline, Evaluation.ofEvents_append_singleton]
  simp [Evaluation.note, Evaluation.current?, Evaluation.latest?]

/-- On the line of a start marker anywhere in the tree, the scope itself
is around the line, and the marker's expression is the innermost one
being evaluated. -/
theorem innermost?_start {p : Property} (h : p.toScope.Tidy) {e : ExprStart}
    (he : e ∈ p.starts) (file : String) :
    p.lines.contains e.line = true ∧
      (Snapshot.ofProperty p ⟨file, e.line⟩).innermost? = some e := by
  obtain ⟨t, ht, het⟩ := Property.mem_starts_tree.mp he
  have htidy := h.mem ht
  have hmarker : Event.marker (.start e) ∈ t.events := mem_ownStarts.mp het
  have hin : t.lines.contains e.line = true :=
    htidy.sound_self.contains_marker hmarker
  have hroot : p.lines.contains e.line = true :=
    LineRange.contains_of_encloses (encloses_of_mem_tree h.sound ht) hin
  have hactive : t ∈ p.toScope.active e.line := by
    rw [active_eq_filter h hroot]
    exact List.mem_filter.mpr ⟨ht, hin⟩
  have hlast := (p.toScope.walk_active e.line).getLast? hactive
    (htidy.behind_marker hmarker).2
  obtain ⟨outer, houter⟩ := List.getLast?_eq_some_iff.mp hlast
  refine ⟨hroot, ?_⟩
  -- the search goes from the innermost scope outwards, and that one is `t`
  unfold Snapshot.innermost? Snapshot.ofProperty
  rw [houter, List.map_append, List.reverse_append]
  show List.findSome? _ (ScopeState.analyze t e.line :: _) = some e
  rw [List.findSome?_cons, htidy.current_start het]

-- ======================================= at the first nested scope

theorem sound_nested (h : s.Tidy) {n : Scope} (hn : n ∈ s.nested) :
    n.Sound := by
  apply h.sound n
  rw [tree_eq]
  exact List.mem_cons_of_mem _
    (List.mem_flatMap.mpr ⟨n, hn, n.mem_tree_self⟩)

/-- On the first line of a nested scope the walk goes into it. -/
theorem inner?_first (h : s.Tidy) {n : Scope} (hn : n ∈ s.nested) :
    s.inner? n.lines.first = some n := by
  obtain ⟨before, after, hevents⟩ := List.append_of_mem (mem_nested.mp hn)
  have hbehind : ∀ e ∈ before, e.isBehind n.lines.first = true :=
    h.isBehind_before hevents (Nat.le_refl _)
  have hle := (h.sound_nested hn).first_le_last
  have hnot : Event.isBehind n.lines.first
      (.scope n.lines n.bindings n.events) = false :=
    decide_eq_false (Nat.not_lt.mpr hle)
  have haround : n.lines.contains n.lines.first = true :=
    LineRange.contains_iff.mpr ⟨Nat.le_refl _, hle⟩
  unfold inner?
  rw [hevents, List.dropWhile_append_of_pos hbehind,
    List.dropWhile_cons_of_neg (by rw [hnot]; simp)]
  exact if_pos haround

/-- On that line the scope and the nested one are the first two active
scopes. -/
theorem active_nested (h : s.Tidy) {n : Scope} (hn : n ∈ s.nested) :
    s.lines.contains n.lines.first = true ∧
      ∃ rest, s.active n.lines.first = s :: n :: rest := by
  have hencloses := h.sound_self.encloses _ (mem_nested.mp hn)
  have hle := (h.sound_nested hn).first_le_last
  refine ⟨?_, Event.nestedAround n.lines.first n.events, ?_⟩
  · apply LineRange.contains_of_encloses hencloses
    exact LineRange.contains_iff.mpr ⟨Nat.le_refl _, hle⟩
  · rw [active_eq, h.inner?_first hn]
    rfl

end Scope.Tidy

theorem Scope.mem_nested_of_firstNested? {s n : Scope}
    (h : s.firstNested? = some n) : n ∈ s.nested := by
  obtain ⟨e, he, hn⟩ := List.exists_of_findSome?_eq_some h
  cases e with
  | marker m => cases hn
  | scope lines bindings events =>
      cases hn
      exact mem_nested.mpr he

-- ========================================================= the frame

/-- Whether an index is in order: each event of a scope lies strictly
after the previous one, and the bodies of the properties are apart. -/
structure Index.Ordered (ix : Index) : Prop where
  events : ∀ p ∈ ix.properties, ∀ s ∈ p.toScope.tree, s.Ordered
  apart : ix.Apart

/-- Whether a snapshot shows what breaking on a specification is for: in
a property by its name the start of its first nested scope, at a
location the start of the expression that the user picks. -/
def Snapshot.Shows (s : Snapshot) (ix : Index) (u : User) :
    BreakSpec → Prop
  | .property name =>
    ix.findByName? name = some s.property ∧
      ∃ n rest, s.property.toScope.firstNested? = some n ∧
        s.scopes.map (·.scope) = s.property.toScope :: n :: rest
  | .location query =>
    ∃ k m e, Picks u (ix.findMatches query).length k ∧
      (ix.findMatches query)[k]? = some m ∧
      (ix.startsAt query)[k]? = some (s.property, e) ∧
      m.StandsFor s.property e ∧ s.innermost? = some e

/-- In an ordered index, a frame on the line that resolving answers is
decoded as what was asked for, whatever the user answers. -/
theorem decodes_resolved {filename : String} {properties : List Property}
    {ix : Index} (accepted : Index.build filename properties = .ok ix)
    (ordered : ix.Ordered) {spec : BreakSpec} {u u' : User}
    {loc : GenLocation} (resolved : (ix.resolve spec).run u = (.ok loc, u')) :
    ∃ s, ix.Decodes loc (some s) ∧ s.Shows ix u spec := by
  have tidy : ∀ p ∈ ix.properties, p.toScope.Tidy := by
    intro p hp
    exact ⟨(Index.wellFormed_of_build accepted).sound p hp,
      ordered.events p hp⟩
  cases spec with
  | property name =>
      have hresolved : ix.resolveProperty name = .ok loc :=
        congrArg Prod.fst resolved
      obtain ⟨p, n, hname, hfirst, rfl⟩ :=
        Index.resolveProperty_eq_ok.mp hresolved
      have hp : p ∈ ix.properties := Index.mem_of_findByName? hname
      obtain ⟨hin, rest, hactive⟩ :=
        (tidy p hp).active_nested (Scope.mem_nested_of_firstNested? hfirst)
      refine ⟨_, ordered.apart.decodes hp hin, hname, n, rest, hfirst, ?_⟩
      rw [Snapshot.map_scope_ofProperty]
      exact hactive
  | location query =>
      obtain ⟨k, m, hpicks, hm, rfl⟩ := Index.resolveLocation_eq_ok resolved
      obtain ⟨p, e, hpe, hstands⟩ := Index.exists_startsAt hm
      obtain ⟨hp, he, -⟩ := Index.mem_startsAt.mp (List.mem_of_getElem? hpe)
      obtain ⟨hin, hinnermost⟩ :=
        (tidy p hp).innermost?_start he ix.filename
      rw [hstands.2.2]
      exact ⟨_, ordered.apart.decodes hp hin, k, m, e, hpicks, hm, hpe,
        hstands, hinnermost⟩

theorem Index.ordered_specimen : specimen.Ordered := by
  refine ⟨?_, List.pairwise_singleton _ _⟩
  intro p hp
  rw [List.mem_singleton.mp hp]
  exact Property.ordered_specimen

/-- Two expressions of the specimen stand at `spec.py:7`; who answers `2`
breaks on the one in the inner scope. -/
theorem decodes_resolved_specimen :
    let query : SpecLocation := ⟨"spec.py", 7, none, none⟩
    let u : User := { input := [.ok "2"] }
    ∃ s, Index.specimen.Decodes ⟨"gen.adb", 32⟩ (some s) ∧
      s.Shows Index.specimen u (.location query) := by
  intro query u
  have resolved : ((Index.specimen.resolve (.location query)).run u).1 =
      .ok ⟨"gen.adb", 32⟩ := rfl
  exact decodes_resolved Index.build_specimen Index.ordered_specimen
    (Prod.ext resolved rfl)

end SpecDebugger
