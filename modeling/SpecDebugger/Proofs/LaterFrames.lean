/-
What stays in sight while a program goes on. A frame on a later line has
read everything of a scope that a frame on an earlier line has read, and
possibly more after it (`Scope.behind_prefix`): an event that stops the
reading at the later line stops it at the earlier one as well. A nested
scope that the earlier frame was in, and so had stopped at, may be passed
by the later one; what it evaluated is not shown in either case.

- What a done marker finishes is settled by the events before it, so that
  more events add to the evaluated expressions at the end
  (`Event.finished_prefix`).
- A variable is bound from its line on. The ones bound earlier keep their
  order, but not their places, as a variable declared before them may be
  bound later (`ScopeState.bindings_analyze`).

The events may be in any order and their numbers repeated or missing;
nothing is asked of the lines of nested scopes either.
-/
import Mathlib.Data.List.Induction
import SpecDebugger.Proofs.LineLookup
import SpecDebugger.Proofs.ScopeReading

namespace SpecDebugger

-- ========================================================= the reading

/-- What stops the reading of events on a line stops it on every earlier
one. -/
theorem Event.StopsAt.of_le {line later : Nat} (le : line ≤ later)
    {e : Event} (stops : e.StopsAt later) : e.StopsAt line := by
  cases e with
  | marker m => exact Nat.lt_of_le_of_lt le stops
  | scope lines bindings events => exact Nat.le_trans le stops

/-- A later frame has read what an earlier one has, and goes on after
it. -/
theorem Scope.behind_prefix (s : Scope) {line later : Nat}
    (le : line ≤ later) : s.behind line <+: s.behind later := by
  have hearlier := s.readTo_behind line
  apply (s.readTo_behind later).longest _ hearlier.starts
  intro e he stops
  exact hearlier.passed e he (stops.of_le le)

/-- More events leave what is finished as it is, and add to it at the
end. -/
theorem Event.finished_prefix {es es' : List Event} (more : es <+: es') :
    finished es <+: finished es' := by
  obtain ⟨rest, rfl⟩ := more
  induction rest using List.reverseRecOn with
  | nil => exact ⟨[], by rw [List.append_nil, List.append_nil]⟩
  | append_singleton rest e ih =>
      rw [← List.append_assoc, finished_append_singleton]
      exact ih.trans (List.prefix_append _ _)

-- ============================================================= a scope

namespace ScopeState

/-- The expressions shown as done are the finished ones behind the line. -/
@[simp]
theorem done_analyze (s : Scope) (line : Nat) :
    (analyze s line).done = Event.finished (s.behind line) :=
  Evaluation.done_ofEvents _

@[simp]
theorem mem_bindings_analyze {s : Scope} {line : Nat} {b : Binding} :
    b ∈ (analyze s line).bindings ↔ b ∈ s.bindings ∧ b.line ≤ line := by
  show b ∈ s.bindings.filter _ ↔ _
  rw [List.mem_filter, decide_eq_true_iff]

variable {line later : Nat} (le : line ≤ later) (s : Scope)
include le

/-- Further on, what is done begins with what was done. -/
theorem done_prefix : (analyze s line).done <+: (analyze s later).done := by
  simpa using Event.finished_prefix (s.behind_prefix le)

/-- What was bound at an earlier line is what is bound now from that line
or before on. -/
theorem bindings_analyze :
    (analyze s line).bindings =
      (analyze s later).bindings.filter fun b => decide (b.line ≤ line) := by
  show s.bindings.filter _ = (s.bindings.filter _).filter _
  rw [List.filter_filter]
  apply List.filter_congr
  intro b _
  have hlater : b.line ≤ line → b.line ≤ later := fun h => Nat.le_trans h le
  simpa using hlater

/-- Further on, no binding is lost. -/
theorem bindings_sublist :
    (analyze s line).bindings.Sublist (analyze s later).bindings := by
  rw [bindings_analyze le]
  exact List.filter_sublist

end ScopeState

-- ========================================================= the entries

/-- The entries of a scope that show a value are those of its bindings,
and after them those of its evaluated expressions. -/
theorem StateReport.filter_scopeEntries (st : ScopeState) :
    (scopeEntries st).filter (·.genVar?.isSome) =
      st.bindings.map .binding ++ st.done.map .result := by
  have hbindings : (st.bindings.map Entry.binding).filter (·.genVar?.isSome) =
      st.bindings.map .binding := by
    simp [Entry.genVar?]
  have hdone : (st.done.map Entry.result).filter (·.genVar?.isSome) =
      st.done.map .result := by
    simp [Entry.genVar?]
  have hothers : (evaluatingEntries st.current).filter (·.genVar?.isSome) =
      [] := by
    rcases st.current with _ | ⟨id, image, resultVar, _ | sloc, line⟩ <;> rfl
  unfold scopeEntries
  split
  next hempty =>
    simp only [ScopeState.isEmpty, Bool.and_eq_true,
      List.isEmpty_iff] at hempty
    rw [hempty.1.1, hempty.1.2]
    rfl
  next =>
    rw [List.filter_cons_of_neg Bool.false_ne_true, List.filter_append,
      List.filter_append, hbindings, hdone, hothers, List.append_nil]

-- ====================================================== the later frame

/-- A scope that is shown is shown as its events up to the line tell. -/
theorem Snapshot.eq_analyze_of_mem {p : Property} {l : GenLocation}
    {st : ScopeState} (h : st ∈ (ofProperty p l).scopes) :
    st = .analyze st.scope l.line := by
  obtain ⟨s, -, rfl⟩ := List.mem_map.mp h
  rfl

/-- On any scope, with its events in any order and with any numbers, a
later line is read at least as far as an earlier one. The expressions that
are evaluated at the earlier line, those finished by what is read there,
are the first ones evaluated at the later line; and what is bound there,
namely from its own line on, is bound at the later line in the same
order. So while a scope is active, whichever frames it is shown for, no
binding and no evaluated expression that was shown for a frame
disappears, changes or comes in another order for a frame further on. -/
theorem later_frame_keeps {line later : Nat} (le : line ≤ later) :
    (∀ s : Scope,
      (∃ read more, s.ReadTo line read ∧ s.ReadTo later (read ++ more) ∧
        (ScopeState.analyze s line).done = Event.finished read ∧
        (ScopeState.analyze s later).done = Event.finished (read ++ more)) ∧
      (ScopeState.analyze s line).done <+: (ScopeState.analyze s later).done ∧
      (∀ b, b ∈ (ScopeState.analyze s line).bindings ↔
        b ∈ s.bindings ∧ b.line ≤ line) ∧
      (ScopeState.analyze s line).bindings.Sublist
        (ScopeState.analyze s later).bindings) ∧
    ∀ (ix : Index) (frame frame' : GenLocation) (snap snap' : Snapshot),
      frame.line = line → frame'.line = later →
      ix.Decodes frame (some snap) → ix.Decodes frame' (some snap') →
      ∀ st ∈ snap.scopes, ∀ st' ∈ snap'.scopes, st.scope = st'.scope →
        st.done <+: st'.done ∧ st.bindings.Sublist st'.bindings ∧
        ((StateReport.scopeEntries st).filter (·.genVar?.isSome)).Sublist
          ((StateReport.scopeEntries st').filter (·.genVar?.isSome)) := by
  constructor
  · intro s
    refine ⟨?_, ScopeState.done_prefix le s,
      fun b => ScopeState.mem_bindings_analyze,
      ScopeState.bindings_sublist le s⟩
    obtain ⟨more, hmore⟩ := s.behind_prefix le
    refine ⟨s.behind line, more, s.readTo_behind line, ?_,
      ScopeState.done_analyze s line, ?_⟩
    · rw [hmore]
      exact s.readTo_behind later
    · rw [hmore]
      exact ScopeState.done_analyze s later
  · intro ix frame frame' snap snap' hline hlater hsnap hsnap' st hst st' hst'
      hsame
    obtain ⟨p, -, -, rfl⟩ :=
      Index.snapshotAt?_eq_some (Index.decodes_iff.mp hsnap)
    obtain ⟨p', -, -, rfl⟩ :=
      Index.snapshotAt?_eq_some (Index.decodes_iff.mp hsnap')
    have heq := Snapshot.eq_analyze_of_mem hst
    have heq' := Snapshot.eq_analyze_of_mem hst'
    rw [hline] at heq
    rw [hlater, ← hsame] at heq'
    have hdone := ScopeState.done_prefix le st.scope
    have hbindings := ScopeState.bindings_sublist le st.scope
    rw [← heq, ← heq'] at hdone hbindings
    refine ⟨hdone, hbindings, ?_⟩
    rw [StateReport.filter_scopeEntries, StateReport.filter_scopeEntries]
    exact (hbindings.map _).append (hdone.sublist.map _)

/-- On line 33 of the specimen the program is in the scope inside the
call; on line 43 it has left it, and the call is done as well. -/
theorem later_frame_keeps_specimen :
    ∃ snap snap', Index.specimen.Decodes ⟨"gen.adb", 33⟩ (some snap) ∧
      Index.specimen.Decodes ⟨"gen.adb", 43⟩ (some snap') ∧
      ∃ st ∈ snap.scopes, ∃ st' ∈ snap'.scopes, st.scope = st'.scope ∧
        st.done.map (·.id) = [1] ∧ st'.done.map (·.id) = [1, 2] ∧
        st.done <+: st'.done ∧ st.bindings.Sublist st'.bindings := by
  let snap := Snapshot.ofProperty .specimen ⟨"gen.adb", 33⟩
  let snap' := Snapshot.ofProperty .specimen ⟨"gen.adb", 43⟩
  have hsnap : Index.specimen.Decodes ⟨"gen.adb", 33⟩ (some snap) :=
    Index.decodes_iff.mpr rfl
  have hsnap' : Index.specimen.Decodes ⟨"gen.adb", 43⟩ (some snap') :=
    Index.decodes_iff.mpr rfl
  have hst : snap.scopes[1] ∈ snap.scopes := List.getElem_mem _
  have hst' : snap'.scopes[1] ∈ snap'.scopes := List.getElem_mem _
  obtain ⟨-, hframes⟩ := later_frame_keeps (by decide : 33 ≤ 43)
  obtain ⟨hdone, hbindings, -⟩ :=
    hframes .specimen _ _ snap snap' rfl rfl hsnap hsnap' _ hst _ hst' rfl
  exact ⟨snap, snap', hsnap, hsnap', _, hst, _, hst', rfl, rfl, rfl, hdone,
    hbindings⟩

end SpecDebugger
