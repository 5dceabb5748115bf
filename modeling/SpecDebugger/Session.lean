/-
A session: commands carried out on a debugger, with their results and
their failures shown to the user.
-/
import SpecDebugger.Command.Basic
import SpecDebugger.Command.Help
import SpecDebugger.Stepping

namespace SpecDebugger

/-- What a session is about. -/
structure Session where
  index : Index
  /-- The prefix of command names. -/
  pre : String := ""
  /-- How many characters of a value are shown. -/
  limit : Nat := 50
  /-- How many steps `si` takes at most. -/
  budget : Nat := Stepping.defaultBudget

namespace Session

variable {σ : Type} [Debugger σ]

/-- Shows the state of the selected frame. -/
def showState (s : Session) (o : StateReport.Options) : Work σ Unit := do
  let snapshot ← Work.ask s.index.currentSnapshot?
  let text ← ExceptT.lift (Dialogue.withHost (StateReport.write o snapshot))
  Work.say text

/-- Shows where the program stopped, or that it exited. -/
def showStop (s : Session) : StopEvent → Work σ Unit
  | .stopped _ _ => s.showState { limit := s.limit }
  | .exited code => Work.say s!"[Inferior exited with code {code}]\n"

/-- Makes a step and shows where it leads. -/
def step (s : Session) (go : Step σ StopEvent) : Work σ Unit := do
  let event ← ExceptT.mk (Dialogue.withHost go.run)
  s.showStop event

/-- Carries out a command. -/
def run (s : Session) : Command → Work σ Unit
  | .state ellipsis storage only =>
    s.showState { ellipsis, storage, limit := s.limit, only }
  | .breakOn spec condition => do
    let _ ← breakOn s.index spec condition
    pure ()
  | .next => s.step (Stepping.next s.index)
  | .out => s.step (Stepping.out s.index)
  | .stepInside => s.step (Stepping.stepInside s.index s.budget)
  | .help => Work.say (Help.text s.pre)

/-- Carries out a line if it is a command, and tells whether it is. The user is
told of every failure, except that of the channel to the user. -/
def execute (s : Session) (line : String) :
    ExceptT ChannelFailure (StateM (Dialogue σ)) Bool :=
  match Command.parse? s.pre line with
  | none => pure false
  | some parsed => do
    let result ←
      match parsed with
      | .error e => pure (Except.error e)
      | .ok command => ExceptT.lift (s.run command).run
    match result with
    | .ok () => pure true
    | .error (.io failure) => throw failure
    | .error e =>
      ExceptT.lift (Dialogue.withUser (User.sayLine e.message))
      pure true

end Session

end SpecDebugger
