/-
The user at the other end: lines to be read, and the text shown so far.
-/
import SpecDebugger.Debugger.Basic
import SpecDebugger.Text.Erasure

namespace SpecDebugger

/-- The user: what each of the next reads will give, and what was shown. At the
end of the list is the end of input. -/
structure User where
  input : List (Except ChannelFailure String) := []
  output : String := ""
  /-- Whether it is shown that a line is expected. -/
  prompted : Bool := true

namespace User

/-- A user who types the bytes of a stream, line by line. -/
def ofBytes (bytes : List UInt8) : User where
  input := (Text.lines bytes).map fun
    | some line => .ok (Text.chomp line)
    | none => .error .notText

/-- What is typed at a terminal as a line, the line end being dropped first. -/
def typedLine : Option String → Except ChannelFailure String
  | none => .error .notText
  | some line =>
    match Text.erased? (Text.dropLineEnd line.toList) with
    | none => .error .tornCharacter
    | some cs => .ok (String.ofList cs)

/-- A user who types the bytes of a stream at a terminal, line by line. -/
def atTerminal (prompted : Bool) (bytes : List UInt8) : User where
  input := (Text.lines bytes).map typedLine
  prompted

/-- Shows a text. -/
def say (text : String) : StateM User Unit :=
  modify fun u => { u with output := u.output ++ text }

/-- Shows a text and ends the line. -/
def sayLine (text : String) : StateM User Unit := say (text ++ "\n")

/-- Reads a line after a `prompt`, `none` at the end of input. -/
def readLine (prompt : String) :
    StateM User (Except ChannelFailure (Option String)) := do
  if (← get).prompted then say prompt
  match (← get).input with
  | [] => return .ok none
  | item :: rest =>
    modify fun u => { u with input := rest }
    return item.map some

end User

/-- A debugger and a user who talk through a session. -/
structure Dialogue (σ : Type) where
  host : σ
  user : User

namespace Dialogue

variable {σ α : Type}

/-- Lets the debugger act. -/
def withHost (act : StateM σ α) : StateM (Dialogue σ) α := fun d =>
  let (a, host) := act d.host
  (a, { d with host })

/-- Lets the user act. -/
def withUser (act : StateM User α) : StateM (Dialogue σ) α := fun d =>
  let (a, user) := act d.user
  (a, { d with user })

end Dialogue

end SpecDebugger
