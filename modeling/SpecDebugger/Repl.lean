/-
The interactive loop: reads lines, carries out commands, and hands every
other line to the debugger, until the user quits or the input ends.
-/
import SpecDebugger.Session

namespace SpecDebugger.Repl

/-- What is shown before a line is read. -/
def prompt : String := "(sdb) "

/-- What a line asks the loop to do. -/
inductive Typed where
  | nothing
  | quit
  | line (text : String)
deriving DecidableEq, Repr

/-- What a line, without the white space around it, asks for. -/
def Typed.ofLine (text : String) : Typed :=
  let line := String.ofList (Text.trim text.toList)
  if line = "" then .nothing
  else if line = "quit" ∨ line = "q" ∨ line = "exit" then .quit
  else .line line

variable {σ : Type} [Debugger σ]

/-- Shows a text to the user. -/
def say (text : String) : ExceptT ChannelFailure (StateM (Dialogue σ)) Unit :=
  ExceptT.lift (Dialogue.withUser (User.say text))

/-- Hands a line to the debugger and shows its answer. -/
def forward (line : String) :
    ExceptT ChannelFailure (StateM (Dialogue σ)) Unit := do
  match ← ExceptT.lift
      (Dialogue.withHost (Debugger.raw line : Request σ String).run) with
  | .ok output => say output
  | .error e => say (e.message ++ "\n")

/-- Carries out a line as a command, or else hands it to the debugger. An
interrupted question to the user only ends the command. -/
def handle (s : Session) (line : String) :
    ExceptT ChannelFailure (StateM (Dialogue σ)) Unit := do
  match ← ExceptT.lift (s.execute line).run with
  | .ok true => pure ()
  | .ok false => forward line
  | .error .interrupted => say "Quit\n"
  | .error failure => throw failure

/-- Reads and handles lines, at most `rounds` of them. -/
def loop (s : Session) :
    Nat → ExceptT ChannelFailure (StateM (Dialogue σ)) Unit
  | 0 => pure ()
  | rounds + 1 => do
    match ← ExceptT.lift (Dialogue.withUser (User.readLine prompt)) with
    | .error .interrupted =>
      say "Quit\n"
      loop s rounds
    | .error failure => throw failure
    | .ok none => pure ()
    | .ok (some text) =>
      match Typed.ofLine text with
      | .nothing => loop s rounds
      | .quit => pure ()
      | .line line =>
        handle s line
        loop s rounds

/-- Runs the loop. Every round takes an item of the input, so that one round
more than there are items reaches the end of it. -/
def run (s : Session) : ExceptT ChannelFailure (StateM (Dialogue σ)) Unit := do
  let rounds := (← get).user.input.length + 1
  loop s rounds

end SpecDebugger.Repl
