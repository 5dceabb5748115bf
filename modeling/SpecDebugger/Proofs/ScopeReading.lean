/-
How a scope is read for a frame on a line, whatever its events are: in
any order, with numbers that are repeated or have no start, as stale or
partial records have them.

The events are read up to the first one that stops the reading: a marker
past the line, or a nested scope that does not end before it
(`Event.StopsAt`). What is read is the longest part from the start
without such an event (`Scope.ReadTo`), and everything that is shown of
the scope is a function of it (`reads_any_events`):

- the next active scope is the event that stopped the reading, if it is
  a nested scope around the line;
- the evaluated expressions are, for the done markers in their order,
  the latest starts before them of their numbers
  (`Evaluation.done_ofEvents`);
- the expression being evaluated is the last start after which no done
  marker of its number comes (`Evaluation.current?_ofEvents`).

So the active scopes are a chain, each one but the first directly nested
in the one before and around the line (`Scope.walk_active`).
-/
import SpecDebugger.Proofs.Evaluation
import SpecDebugger.Proofs.Index.Order

namespace SpecDebugger

-- ============================================== what is read of a scope

/-- Whether an event stops the reading for a frame at `line`. -/
def Event.StopsAt (line : Nat) : Event → Prop
  | .marker m => line < m.line
  | .scope lines _ _ => line ≤ lines.last

/-- Whether `es` is what is read of a scope for a frame at `line`: the
longest part of its events, from the first one on, in which none stops
the reading. -/
structure Scope.ReadTo (s : Scope) (line : Nat) (es : List Event) : Prop where
  starts : es <+: s.events
  passed : ∀ e ∈ es, ¬e.StopsAt line
  longest : ∀ es', es' <+: s.events → (∀ e ∈ es', ¬e.StopsAt line) →
    es' <+: es

/-- The events behind a line are those that do not stop the reading. -/
theorem Event.isBehind_iff {line : Nat} {e : Event} :
    e.isBehind line = true ↔ ¬e.StopsAt line := by
  cases e with
  | marker m => simp [isBehind, StopsAt]
  | scope lines bindings events => simp [isBehind, StopsAt]

/-- The events behind a frame are what is read for it. -/
theorem Scope.readTo_behind (s : Scope) (line : Nat) :
    s.ReadTo line (s.behind line) := by
  refine ⟨List.takeWhile_prefix _, ?_, ?_⟩
  · intro e he
    exact Event.isBehind_iff.mp (List.all_eq_true.mp List.all_takeWhile e he)
  · rintro es' ⟨rest, hevents⟩ passed
    have hall : ∀ e ∈ es', e.isBehind line = true :=
      fun e he => Event.isBehind_iff.mpr (passed e he)
    rw [behind, ← hevents, List.takeWhile_append_of_pos hall]
    exact List.prefix_append _ _

-- =================================================== what is evaluated

namespace Event

/-- The latest start of an expression among events. -/
def latestStart? (es : List Event) (id : Nat) : Option ExprStart :=
  ((es.filterMap start?).filter (·.id == id)).getLast?

/-- The start that the event at a position finishes: if it is a done
marker, the latest one before it of its number. -/
def finishedAt? (es : List Event) (i : Nat) : Option ExprStart :=
  (es[i]?.bind done?).bind fun d => latestStart? (es.take i) d.id

/-- The starts that the done markers among events finish, in the order
of these. A done marker without a start before it finishes nothing. -/
def finished (es : List Event) : List ExprStart :=
  (List.range es.length).filterMap (finishedAt? es)

/-- One more event finishes the expression whose done marker it is, if
that has started. -/
@[simp]
theorem finished_append_singleton (es : List Event) (e : Event) :
    finished (es ++ [e]) = finished es ++
      (e.done?.bind fun d => latestStart? es d.id).toList := by
  have hlast : finishedAt? (es ++ [e]) es.length =
      e.done?.bind fun d => latestStart? es d.id := by
    simp [finishedAt?]
  have hothers : ∀ i ∈ List.range es.length,
      finishedAt? (es ++ [e]) i = finishedAt? es i := by
    intro i hi
    have hlt := List.mem_range.mp hi
    rw [finishedAt?, finishedAt?, List.getElem?_append_left hlt,
      List.take_append_of_le_length (Nat.le_of_lt hlt)]
  unfold finished
  rw [List.length_append, List.length_singleton, List.range_succ,
    List.filterMap_append, List.filterMap_congr hothers, ← hlast,
    List.filterMap_cons, List.filterMap_nil]
  cases finishedAt? (es ++ [e]) es.length <;> rfl

end Event

/-- The latest start that is noted is the latest among the events. -/
theorem Evaluation.latest?_eq_latestStart? (es : List Event) (id : Nat) :
    (ofEvents es).latest? id = Event.latestStart? es id := by
  rw [latest?_ofEvents, Event.latestStart?, ← List.head?_filter,
    List.filter_reverse, List.head?_reverse]

/-- The evaluated expressions are what the done markers finish. -/
theorem Evaluation.done_ofEvents (es : List Event) :
    (ofEvents es).done = Event.finished es := by
  induction es using List.reverseRecOn with
  | nil => rfl
  | append_singleton es e ih =>
      rw [ofEvents_append_singleton, Event.finished_append_singleton, ← ih]
      cases e with
      | scope lines bindings events => simp [note, Event.done?]
      | marker m =>
          cases m with
          | start m => simp [note, Event.done?]
          | done d =>
              rw [note, latest?_eq_latestStart?]
              rfl

example :
    let a : ExprStart := ⟨1, "f (x)", "Call_1", none, 3⟩
    let b : ExprStart := ⟨1, "f (y)", "Call_2", none, 4⟩
    Event.finished [.marker (.start a), .marker (.start b),
      .marker (.done ⟨1, 5⟩), .marker (.done ⟨1, 6⟩),
      .marker (.done ⟨2, 7⟩)] = [b, b] := rfl

-- =================================================== any events at all

/-- What is shown of a scope is settled by what is read of it, on any
scope and any line: there is a longest part of its events before
anything that stops the reading. The event right after it is the next
active scope if it is one around the line; the evaluated expressions are
those its done markers finish, in their order; and the one being
evaluated is its last start that no done marker after it finishes. So
the scopes of a snapshot start with the property and go on with a nested
scope around the line each, as long as there is one. -/
theorem reads_any_events :
    (∀ (s : Scope) (line : Nat), ∃ read, s.ReadTo line read ∧
      (∀ t, s.inner? line = some t ↔
        (∃ es, s.events =
          read ++ .scope t.lines t.bindings t.events :: es) ∧
        t.lines.contains line = true) ∧
      (ScopeState.analyze s line).done = Event.finished read ∧
      (ScopeState.analyze s line).current =
        (Event.unfinished read).getLast?) ∧
    ∀ (p : Property) (location : GenLocation),
      let line := location.line
      let shown := (Snapshot.ofProperty p location).scopes
      let scopes := shown.map (·.scope)
      shown = scopes.map (ScopeState.analyze · line) ∧
        scopes.head? = some p.toScope ∧
        scopes.IsChain (fun outer inner =>
          outer.inner? line = some inner ∧ inner ∈ outer.nested ∧
            inner.lines.contains line = true) ∧
        (∀ t ∈ scopes.getLast?, t.inner? line = none) ∧
        ((∀ t ∈ scopes, t.lines.contains line = true) ↔
          p.lines.contains line = true) := by
  constructor
  · intro s line
    refine ⟨s.behind line, s.readTo_behind line,
      fun t => Scope.inner?_eq_some_iff, ?_, ?_⟩
    · exact Evaluation.done_ofEvents _
    · exact Evaluation.current?_ofEvents _
  · intro p location line shown scopes
    have hscopes : scopes = p.toScope.active line :=
      Snapshot.map_scope_ofProperty p location
    have hchain : scopes.IsChain (fun outer inner =>
        outer.inner? line = some inner ∧ inner ∈ outer.nested ∧
          inner.lines.contains line = true) := by
      rw [hscopes]
      refine (p.toScope.walk_active line).chain.imp ?_
      intro outer inner hinner
      exact ⟨hinner, Scope.mem_nested_of_inner? hinner⟩
    refine ⟨?_, ?_, hchain, ?_, ?_⟩
    · rw [hscopes]
      rfl
    · rw [hscopes]
      rfl
    · rw [hscopes]
      exact (p.toScope.walk_active line).ends
    · constructor
      · intro hall
        apply hall p.toScope
        rw [hscopes]
        exact List.mem_cons_self
      · intro hin
        -- each scope is entered from the one before, the first being the body
        apply hchain.induction (fun t => t.lines.contains line = true)
        · intro outer inner hinner _
          exact hinner.2.2
        · intro hne
          have hhead : scopes.head hne = p.toScope := by
            simp [hscopes, Scope.active]
          rw [hhead]
          exact hin

end SpecDebugger
