/-
What running a computation does to the state it runs on.

Requests, steps and the work of commands are all computations that may
fail and leave a state behind in either case. Two things are said about
them here once and for all: how a run of one after the other comes apart
(`run_bind_eq_ok`), and when a relation between states holds of the state
before and the state after (`Moves`). The second is closed under every
way in which computations are put together, as long as the relation is a
preorder, so that a property of a whole session comes down to the
requests it makes.
-/
import Mathlib.Order.Defs.Unbundled
import SpecDebugger.Stepping

namespace SpecDebugger

variable {σ ε α β : Type}

-- ====================================================== coming apart

/-- Running one computation after another runs the second where the
first one ends, unless that fails. -/
theorem run_bind (x : ExceptT ε (StateM σ) α)
    (f : α → ExceptT ε (StateM σ) β) (s : σ) :
    (x >>= f).run s =
      match x.run s with
      | (.ok a, s') => (f a).run s'
      | (.error e, s') => (.error e, s') := by
  simp only [bind, ExceptT.run, ExceptT.bind, ExceptT.mk, StateT.bind]
  rcases x s with ⟨_ | _, _⟩ <;> rfl

/-- A run of two computations succeeds just when both succeed, the
second one where the first one ends. -/
theorem run_bind_eq_ok {x : ExceptT ε (StateM σ) α}
    {f : α → ExceptT ε (StateM σ) β} {s s' : σ} {b : β} :
    (x >>= f).run s = (.ok b, s') ↔
      ∃ a t, x.run s = (.ok a, t) ∧ (f a).run t = (.ok b, s') := by
  rw [run_bind]
  rcases x.run s with ⟨e | a, t⟩
  · constructor
    · intro h
      cases h
    · intro hyp
      obtain ⟨a, t', ha, -⟩ := hyp
      cases ha
  · constructor
    · intro h
      exact ⟨a, t, rfl, h⟩
    · intro hyp
      obtain ⟨a', t', ha, h⟩ := hyp
      cases ha
      exact h

/-- A function of the answer is a function of every answer. -/
theorem run_map (f : α → β) (x : ExceptT ε (StateM σ) α) (s : σ) :
    (f <$> x).run s =
      match x.run s with
      | (.ok a, s') => (.ok (f a), s')
      | (.error e, s') => (.error e, s') := by
  simp only [Functor.map, ExceptT.map, ExceptT.run, ExceptT.mk, bind,
    StateT.bind]
  rcases x s with ⟨_ | _, _⟩ <;> rfl

/-- A failure is handled where it leaves off. -/
theorem run_tryCatch (x : ExceptT ε (StateM σ) α)
    (handle : ε → ExceptT ε (StateM σ) α) (s : σ) :
    (tryCatch x handle).run s =
      match x.run s with
      | (.ok a, s') => (.ok a, s')
      | (.error e, s') => (handle e).run s' := by
  show (ExceptT.tryCatch x handle).run s = _
  simp only [ExceptT.tryCatch, ExceptT.run, ExceptT.mk, bind, StateT.bind]
  rcases x s with ⟨_ | _, _⟩ <;> rfl

/-- Looking at the state hands it on, and leaves it as it is. -/
@[simp]
theorem run_get_bind (f : σ → ExceptT ε (StateM σ) α) (s : σ) :
    ((get : ExceptT ε (StateM σ) σ) >>= f).run s = (f s).run s := rfl

/-- Giving an answer adds nothing to the state. -/
theorem state_bind_pure (x : ExceptT ε (StateM σ) α) (b : β) (s : σ) :
    ((x >>= fun _ => pure b).run s).2 = (x.run s).2 := by
  rw [run_bind]
  rcases x.run s with ⟨_ | _, _⟩ <;> rfl

/-- A computation that cannot fail always leads on. -/
@[simp]
theorem run_lift_bind (m : StateM σ α) (f : α → ExceptT ε (StateM σ) β)
    (s : σ) :
    (ExceptT.lift m >>= f).run s = (f (m s).1).run (m s).2 := rfl

-- ========================================================== the frame

/-- A step that asks the debugger names its failures in its own way. -/
@[simp]
theorem Step.run_ask (request : Request σ α) (s : σ) :
    (Step.ask request).run s =
      ((request.run s).1.mapError .host, (request.run s).2) := rfl

/-- The frame is decoded from its location, which is all that is asked for. -/
theorem Index.run_currentSnapshot? [Debugger σ] (ix : Index) (s : σ) :
    ix.currentSnapshot?.run s =
      let asked := (Debugger.location : Request σ (Option GenLocation)).run s
      (asked.1.map (·.bind ix.snapshotAt?), asked.2) := by
  unfold currentSnapshot?
  rw [run_bind]
  rcases (Debugger.location : Request σ (Option GenLocation)).run s
    with ⟨_ | _ | _, _⟩
  all_goals rfl

/-- A step begins by asking where the frame is; it goes on with the
snapshot there. -/
theorem Step.run_snapshot [Debugger σ] (ix : Index) (s : σ) :
    (Step.snapshot ix).run s =
      match (Debugger.location : Request σ (Option GenLocation)).run s with
      | (.error e, t) => (.error (.host e), t)
      | (.ok l, t) =>
        match l.bind ix.snapshotAt? with
        | none => (.error .notInProperty, t)
        | some snap => (.ok snap, t) := by
  unfold Step.snapshot
  rw [run_bind, Step.run_ask, Index.run_currentSnapshot?]
  rcases (Debugger.location : Request σ (Option GenLocation)).run s
    with ⟨e | l, t⟩
  · rfl
  · dsimp only [Except.map, Except.mapError]
    cases l.bind ix.snapshotAt? <;> rfl

-- ============================================================ moving

/-- Whether a computation leads from each state to a related one. -/
def Moves (R : σ → σ → Prop) (m : StateM σ α) : Prop :=
  ∀ s, R s (m.run s).2

/-- A step that asks the debugger does what the request does. -/
theorem Moves.ask {R : σ → σ → Prop} {request : Request σ α}
    (h : Moves R request.run) : Moves R (Step.ask request).run :=
  h

namespace Moves

variable {R : σ → σ → Prop} [IsPreorder σ R]

theorem pure (a : α) : Moves R (Pure.pure a : StateM σ α) := refl_of R

theorem bind {m : StateM σ α} {f : α → StateM σ β} (hm : Moves R m)
    (hf : ∀ a, Moves R (f a)) : Moves R (m >>= f) := by
  intro s
  exact trans_of R (hm s) (hf _ _)

/-- A computation that may fail moves on as far as it comes. -/
theorem bindE {x : ExceptT ε (StateM σ) α} {f : α → ExceptT ε (StateM σ) β}
    (hx : Moves R x.run) (hf : ∀ a, Moves R (f a).run) :
    Moves R (x >>= f).run := by
  intro s
  have hs := hx s
  simp only [StateT.run] at hs ⊢
  rw [run_bind]
  rcases hrun : x.run s with ⟨_ | a, t⟩
  · rw [hrun] at hs
    exact hs
  · rw [hrun] at hs
    exact trans_of R hs (hf a t)

end Moves

end SpecDebugger
