/-
A debugger program that follows a script: the first rule that fits a
command gives the answer. A rule answers its uses one after the other,
and repeats its last answer.
-/
import SpecDebugger.MachineInterface.Connection
import SpecDebugger.Text.Lines

namespace SpecDebugger.MachineInterface

/-- A line of a script. -/
inductive ScriptLine where
  /-- A text, in which `$T` stands for the token of the command. -/
  | text (line : String)
  | bytes (bytes : List UInt8)
  /-- The end of the output, for good. -/
  | close
deriving DecidableEq, Repr

/-- A rule: commands that start with `command` get the replies in turn. -/
structure ScriptRule where
  command : String
  replies : List (List ScriptLine)
deriving DecidableEq, Repr

/-- A program that follows a script. -/
structure Script where
  rules : List ScriptRule
  /-- Whether the output has ended; then commands are no longer taken. -/
  closed : Bool := false
  /-- The commands taken, the last one first. -/
  taken : List String := []
deriving DecidableEq, Repr

namespace Script

/-- Replaces every `$T`. -/
def fill (token : List Char) : List Char → List Char
  | [] => []
  | '$' :: 'T' :: cs => token ++ fill token cs
  | c :: cs => c :: fill token cs

/-- The lines of output for a line of a script, each text being cut at line
feeds. -/
def outputOf (token : List Char) : ScriptLine → List OutputLine
  | .text line =>
    (Connection.linesOf (fill token line.toList)).map
      (.text <| String.ofList ·)
  | .bytes bytes =>
    (Text.lines (bytes ++ [10])).map fun
      | some line => .text line
      | none => .garbled
  | .close => []

/-- The output of a reply, and whether it ends the output for good. -/
def write (token : List Char) : List ScriptLine → List OutputLine × Bool
  | [] => ([], false)
  | .close :: _ => ([], true)
  | line :: lines =>
    let (output, closes) := write token lines
    (outputOf token line ++ output, closes)

/-- The reply for the next use of a rule, and the rule after it. -/
def ScriptRule.use : ScriptRule → Option (List ScriptLine × ScriptRule)
  | ⟨_, []⟩ => none
  | ⟨command, [reply]⟩ => some (reply, ⟨command, [reply]⟩)
  | ⟨command, reply :: replies⟩ => some (reply, ⟨command, replies⟩)

/-- The reply to a command without its token, and the rules after it. -/
def answer (command : List Char) :
    List ScriptRule → Option (List ScriptLine × List ScriptRule)
  | [] => none
  | rule :: rules =>
    if rule.command.toList.isPrefixOf command then
      (ScriptRule.use rule).map fun (reply, rule) => (reply, rule :: rules)
    else
      (answer command rules).map fun (reply, rules) => (reply, rule :: rules)

/-- Takes a command line. Output ends when no rule has a reply to it. -/
def receive (s : Script) (line : String) : List OutputLine × Script :=
  if s.closed then ([], s)
  else
    let cs := line.toList
    let taken := line :: s.taken
    match answer (cs.dropWhile Char.isDigit) s.rules with
    | none => ([], { s with closed := true, taken })
    | some (reply, rules) =>
      let (output, closes) := write (cs.takeWhile Char.isDigit) reply
      (output, { rules, closed := closes, taken })

instance : Program Script where
  receive line s := s.receive line

/-- The conversation with a program that follows a script, after it wrote its
greeting. -/
def connect (greeting : List ScriptLine) (rules : List ScriptRule) :
    Connection Script :=
  let (output, closes) := write [] greeting
  { program := { rules, closed := closes }, unread := output }

end Script

end SpecDebugger.MachineInterface
