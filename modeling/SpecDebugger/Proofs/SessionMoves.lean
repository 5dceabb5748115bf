/-
Where a session takes the debugger. Every command but `break` asks the
same four things of a debugger: where the frame is, the value of a
variable, a step, and a group run. If these move the debugger along a
preorder (`Walks`), so do the steps and the commands built from them
(`Walks.run`). The `break` command inserts one breakpoint and may attach
a condition to it; a debugger all of whose requests move along a preorder
moves along it under every command (`Obeys.run`).

A line is the command it stands for and the report of how that fails
(`Session.run_execute`). So what the host is after a line is what it is
after the command, and a line that stands for none leaves it alone
(`Session.host_execute`).
-/
import SpecDebugger.Proofs.Effects
import SpecDebugger.Session

namespace SpecDebugger

variable {σ α : Type}

-- ======================================================= the two sides

/-- A relation between the debuggers of two dialogues. -/
def OnHost (R : σ → σ → Prop) (d d' : Dialogue σ) : Prop := R d.host d'.host

instance {R : σ → σ → Prop} [IsPreorder σ R] :
    IsPreorder (Dialogue σ) (OnHost R) where
  refl d := refl_of R d.host
  trans _ _ _ h h' := trans_of R h h'

/-- What the debugger does in a dialogue it does by itself. -/
theorem Moves.withHost {R : σ → σ → Prop} {act : StateM σ α}
    (h : Moves R act) : Moves (OnHost R) (Dialogue.withHost act) :=
  fun d => h d.host

/-- A question to the user leaves the debugger alone. -/
@[simp]
theorem Work.run_askUser (question : ExceptT CommandError (StateM User) α)
    (d : Dialogue σ) :
    (Work.askUser question : Work σ α).run d =
      ((question.run d.user).1, { d with user := (question.run d.user).2 }) :=
  rfl

/-- The work of a command asks the debugger, and names failures in its
own way. -/
@[simp]
theorem Work.run_ask (request : Request σ α) (wrap : HostError → CommandError)
    (d : Dialogue σ) :
    (Work.ask request wrap).run d =
      ((request.run d.host).1.mapError wrap,
        { d with host := (request.run d.host).2 }) :=
  rfl

/-- What becomes of a failure: one of the channel ends the session, every
other one is told to the user. -/
def CommandError.report (d : Dialogue σ) :
    CommandError → Except ChannelFailure Bool × Dialogue σ
  | .io failure => (.error failure, d)
  | e =>
    let output := d.user.output ++ (e.message ++ "\n")
    (.ok true, { d with user := { d.user with output } })

/-- Reporting a failure leaves the debugger alone. -/
@[simp]
theorem CommandError.host_report (e : CommandError) (d : Dialogue σ) :
    (e.report d).2.host = d.host := by
  cases e <;> rfl

variable {R : σ → σ → Prop} [IsPreorder σ R]

/-- What is said to the user leaves the debugger alone. -/
theorem Moves.withUser (act : StateM User α) :
    Moves (OnHost R) (Dialogue.withUser act : StateM (Dialogue σ) α) :=
  fun d => refl_of R d.host

/-- A command moves the debugger as its question does. -/
theorem Moves.workAsk {request : Request σ α} (h : Moves R request.run)
    (wrap : HostError → CommandError) :
    Moves (OnHost R) (Work.ask request wrap).run :=
  h.withHost.bind fun _ => Moves.pure _

theorem Moves.workSay (text : String) :
    Moves (OnHost R) (Work.say text : Work σ Unit).run :=
  (Moves.withUser (User.say text)).bind fun _ => Moves.pure _

-- =========================================================== the walks

variable [Debugger σ]

/-- Whether what all commands but `break` ask of a debugger moves it
along a relation. -/
structure Walks (R : σ → σ → Prop) : Prop where
  location : Moves R (Debugger.location : Request σ (Option GenLocation)).run
  readVar : ∀ name, Moves R (Debugger.readVar name : Request σ String).run
  stepInto : Moves R (Debugger.stepInto : Request σ StopEvent).run
  runTo : ∀ file lines,
    Moves R (BreakpointGroup.runTo file lines : Request σ StopEvent).run

namespace Walks

theorem currentSnapshot? (w : Walks R) (ix : Index) :
    Moves R (ix.currentSnapshot? : Request σ (Option Snapshot)).run := by
  apply w.location.bindE
  intro location
  cases location with
  | none => exact Moves.pure _
  | some l => exact Moves.pure _

theorem snapshot (w : Walks R) (ix : Index) :
    Moves R (Step.snapshot ix : Step σ Snapshot).run := by
  apply (Moves.ask (w.currentSnapshot? ix)).bindE
  intro s
  cases s with
  | none => exact Moves.pure _
  | some s => exact Moves.pure _

/-- The step moves the debugger by a group run. -/
theorem next (w : Walks R) (ix : Index) :
    Moves R (Stepping.next ix : Step σ StopEvent).run := by
  apply (w.snapshot ix).bindE
  intro s
  exact Moves.ask (w.runTo _ _)

theorem out (w : Walks R) (ix : Index) :
    Moves R (Stepping.out ix : Step σ StopEvent).run := by
  apply (w.snapshot ix).bindE
  intro s
  cases s.innermost? with
  | none => exact Moves.pure _
  | some e => exact Moves.ask (w.runTo _ _)

/-- Steps that are repeated move it as single ones do. -/
theorem stepUntilInside (w : Walks R) (ix : Index) (start : String)
    (budget : Nat) :
    Moves R
      (Stepping.stepUntilInside ix start budget : Step σ StopEvent).run := by
  induction budget with
  | zero => exact Moves.pure _
  | succ budget ih =>
      apply (Moves.ask w.stepInto).bindE
      intro event
      rcases event with ⟨_ | l, breakpoint⟩ | code
      · exact ih
      · dsimp only
        cases Stepping.arrival ix start l with
        | passing => exact ih
        | inside => exact Moves.pure _
        | noCall => exact Moves.pure _
      · exact Moves.pure _

theorem stepInside (w : Walks R) (ix : Index) (budget : Nat) :
    Moves R (Stepping.stepInside ix budget : Step σ StopEvent).run := by
  apply (w.snapshot ix).bindE
  intro s
  exact w.stepUntilInside ix s.property.name budget

-- ======================================================== the commands

/-- A report reads variables, one after the other. -/
theorem writeEntries (w : Walks R) (o : StateReport.Options)
    (es : List StateReport.Entry) :
    Moves R (StateReport.writeEntries o es : StateM σ String) := by
  induction es with
  | nil => exact Moves.pure _
  | cons e es ih =>
      refine Moves.bind ?_ fun first => ih.bind fun others => Moves.pure _
      unfold StateReport.writeEntry
      cases e.genVar? with
      | none => exact Moves.pure _
      | some name => exact (w.readVar name).bind fun answer => Moves.pure _

/-- Showing the state moves the debugger by reading variables. -/
theorem showState (w : Walks R) (s : Session) (o : StateReport.Options) :
    Moves (OnHost R) (s.showState o : Work σ Unit).run := by
  apply (Moves.workAsk (w.currentSnapshot? s.index) _).bindE
  intro snapshot
  refine Moves.bindE ?_ fun text => Moves.workSay text
  exact (Moves.withHost (w.writeEntries o _)).bind fun _ => Moves.pure _

/-- Showing a stop moves it as showing the state does. -/
theorem showStop (w : Walks R) (s : Session) (event : StopEvent) :
    Moves (OnHost R) (s.showStop event : Work σ Unit).run := by
  cases event with
  | stopped location breakpoint => exact w.showState s _
  | exited code => exact Moves.workSay _

theorem step (w : Walks R) (s : Session) {go : Step σ StopEvent}
    (h : Moves R go.run) : Moves (OnHost R) (s.step go : Work σ Unit).run :=
  Moves.bindE (Moves.withHost h) fun event => w.showStop s event

/-- Every command that does not break moves the debugger along. -/
theorem run (w : Walks R) (s : Session) {c : Command}
    (quiet : ∀ spec condition, c ≠ .breakOn spec condition) :
    Moves (OnHost R) (s.run c : Work σ Unit).run := by
  cases c with
  | state ellipsis storage only => exact w.showState s _
  | breakOn spec condition => exact absurd rfl (quiet spec condition)
  | next => exact w.step s (w.next s.index)
  | out => exact w.step s (w.out s.index)
  | stepInside => exact w.step s (w.stepInside s.index s.budget)
  | help => exact Moves.workSay _

end Walks

-- ======================================================== all requests

/-- Whether all requests that a session makes move a debugger along a
relation. -/
structure Obeys (R : σ → σ → Prop) : Prop where
  location : Moves R (Debugger.location : Request σ (Option GenLocation)).run
  readVar : ∀ name, Moves R (Debugger.readVar name : Request σ String).run
  insertBreakpoint : ∀ location internal,
    Moves R (Debugger.insertBreakpoint location internal :
      Request σ BreakpointId).run
  setCondition : ∀ id condition,
    Moves R (Debugger.setCondition id condition : Request σ Unit).run
  deleteBreakpoint : ∀ id,
    Moves R (Debugger.deleteBreakpoint id : Request σ Unit).run
  resume : Moves R (Debugger.resume : Request σ StopEvent).run
  stepInto : Moves R (Debugger.stepInto : Request σ StopEvent).run

namespace Obeys

/-- Deleting breakpoints one by one moves the debugger along. -/
theorem cleanup (o : Obeys R) (ids : List BreakpointId) :
    Moves R (BreakpointGroup.cleanup ids : StateM σ Unit) := by
  induction ids with
  | nil => exact Moves.pure _
  | cons id ids ih => exact (o.deleteBreakpoint id).bind fun _ => ih

theorem insertAll (o : Obeys R) (file : String) (ids : List BreakpointId)
    (lines : List Nat) :
    Moves R (BreakpointGroup.insertAll file ids lines :
      Request σ (List BreakpointId)).run := by
  induction lines generalizing ids with
  | nil => exact Moves.pure _
  | cons line lines ih =>
      apply (o.insertBreakpoint ⟨file, line⟩ true).bind
      intro answer
      cases answer with
      | ok id => exact ih (ids ++ [id])
      | error e => exact (o.cleanup ids).bind fun _ => Moves.pure _

theorem runTo (o : Obeys R) (file : String) (lines : List Nat) :
    Moves R (BreakpointGroup.runTo file lines : Request σ StopEvent).run := by
  apply (o.insertAll file [] (ascending lines)).bindE
  intro ids
  apply o.resume.bind
  intro event
  exact (o.cleanup ids).bind fun _ => Moves.pure _

/-- A debugger that obeys in every request does so in a walk. -/
theorem walks (o : Obeys R) : Walks R :=
  ⟨o.location, o.readVar, o.stepInto, o.runTo⟩

/-- Breaking moves the debugger by an insertion and a condition. -/
theorem breakOn (o : Obeys R) (ix : Index) (spec : BreakSpec)
    (condition : Option String) :
    Moves (OnHost R)
      (SpecDebugger.breakOn ix spec condition : Work σ BreakpointId).run := by
  apply Moves.bindE (Moves.withUser _)
  intro location
  apply (Moves.workAsk (o.insertBreakpoint location false) _).bindE
  intro id
  apply (Moves.workSay _).bindE
  intro _
  cases condition with
  | none => exact Moves.pure _
  | some text =>
      exact (Moves.workAsk (o.setCondition id text) _).bindE fun _ =>
        Moves.pure _

/-- Every command moves the debugger along. -/
theorem run (o : Obeys R) (s : Session) (c : Command) :
    Moves (OnHost R) (s.run c : Work σ Unit).run := by
  by_cases hbreak : ∃ spec condition, c = .breakOn spec condition
  · obtain ⟨spec, condition, rfl⟩ := hbreak
    exact (o.breakOn s.index spec condition).bindE fun _ => Moves.pure _
  · apply o.walks.run s
    intro spec condition hc
    exact hbreak ⟨spec, condition, hc⟩

end Obeys

-- =========================================================== the lines

/-- Carrying out a line is carrying out its command, and reporting how
that fails. -/
theorem Session.run_execute (s : Session) (line : String) (d : Dialogue σ) :
    (s.execute line).run d =
      match Command.parse? s.pre line with
      | none => (.ok false, d)
      | some (.error e) => e.report d
      | some (.ok c) =>
        match (s.run c).run d with
        | (.ok _, left) => (.ok true, left)
        | (.error e, left) => e.report left := by
  unfold execute
  rcases Command.parse? s.pre line with _ | e | c
  · rfl
  · cases e <;> rfl
  · show (ExceptT.lift (s.run c).run >>= _ :
      ExceptT ChannelFailure (StateM (Dialogue σ)) Bool).run d = _
    rw [run_lift_bind]
    dsimp only
    rcases (s.run c).run d with ⟨e | _, left⟩
    · cases e <;> rfl
    · rfl

/-- What is left of the debugger after a line is what its command leaves
of it; a line without a command leaves it alone. -/
theorem Session.host_execute (s : Session) (line : String) (d : Dialogue σ) :
    ((s.execute line).run d).2.host =
      match Command.parse? s.pre line with
      | some (.ok c) => ((s.run c).run d).2.host
      | _ => d.host := by
  rw [run_execute]
  rcases Command.parse? s.pre line with _ | e | c
  · rfl
  · exact e.host_report d
  · dsimp only
    rcases (s.run c).run d with ⟨e | _, left⟩
    · exact e.host_report left
    · rfl

end SpecDebugger
