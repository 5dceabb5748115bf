/-
Commands as they are typed: a prefix and a name, then arguments. A line
whose first word is no such name is not a command, and left to the
debugger.
-/
import SpecDebugger.BreakSpec
import SpecDebugger.Command.Error

namespace SpecDebugger

/-- A command. -/
inductive Command where
  /-- Shows the state of the running property, or one variable of it. -/
  | state (ellipsis storage : Bool) (only : Option String)
  /-- Breaks on a property or a location, with a condition if there is one. -/
  | breakOn (spec : BreakSpec) (condition : Option String)
  /-- Continues to another expression. -/
  | next
  /-- Continues to the end of the current expression. -/
  | out
  /-- Steps into the property about to be called. -/
  | stepInside
  /-- Lists the commands. -/
  | help
deriving DecidableEq, Repr

namespace Command

-- ====================================================== arguments

/-- The command, which takes no argument. -/
def withoutArgument (arg : List Char) (c : Command) :
    Except CommandError Command :=
  if (Text.trim arg).isEmpty then .ok c else .error .noArgumentExpected

/-- Adds a flag to an ascending list without repetition. -/
def insertFlag (f : Char) : List Char → List Char
  | [] => [f]
  | g :: gs =>
    if f < g then f :: g :: gs
    else if f = g then g :: gs
    else g :: insertFlag f gs

/-- The flags of `state`: `f` shows values in full, `s` names generated
variables. -/
def readFlags (flags : List Char) : Except CommandError (Bool × Bool) :=
  let unknown := flags.filter fun c => c != 'f' && c != 's'
  if unknown.isEmpty then .ok (!flags.contains 'f', flags.contains 's')
  else .error (.invalidFlags (unknown.foldr insertFlag []))

/-- The command `state`, by the words after its flags. -/
def stateOf (flags : Bool × Bool) :
    List (List Char) → Except CommandError Command
  | [] => .ok (.state flags.1 flags.2 none)
  | [name] => .ok (.state flags.1 flags.2 (some (String.ofList name)))
  | _ :: extra => .error (.extraArguments (extra.map String.ofList))

/-- Reads the arguments of `state`. -/
def parseState (arg : List Char) : Except CommandError Command :=
  match Text.words arg with
  | ('/' :: flags) :: rest => do
    let flags ← readFlags flags
    stateOf flags rest
  | rest => stateOf (true, false) rest

/-- Reads what to break on. -/
def parseSpec (cs : List Char) : Except CommandError BreakSpec :=
  (BreakSpec.parse (String.ofList cs)).mapError .invalidLocation

/-- Reads the arguments of `break`. -/
def parseBreak (arg : List Char) : Except CommandError Command :=
  match Text.splitWords 3 arg with
  | [] => .error .missingBreakSpec
  | [spec] => (parseSpec spec).map (.breakOn · none)
  | [spec, ['i', 'f'], condition] =>
    (parseSpec spec).map (.breakOn · (some (String.ofList condition)))
  | [_, _, _] => .error .expectedIf
  | _ => .error .wrongArgumentCount

-- ========================================================= lines

/-- The command of a name, given its arguments; `none` when there is none of
that name. -/
def ofName? (name arg : List Char) : Option (Except CommandError Command) :=
  if name = "state".toList then some (parseState arg)
  else if name = "break".toList then some (parseBreak arg)
  else if name = "next".toList then some (withoutArgument arg .next)
  else if name = "out".toList then some (withoutArgument arg .out)
  else if name = "si".toList then some (withoutArgument arg .stepInside)
  else if name = "help".toList then some (withoutArgument arg .help)
  else none

/-- Reads a line, given the prefix of command names; `none` when it is no
command. -/
def parse? (pre line : String) : Option (Except CommandError Command) :=
  let (word, arg) := Text.cutAtBlank (Text.trim line.toList)
  match pre.toList.isPrefixOf? word with
  | none => none
  | some name => ofName? name arg

end Command

end SpecDebugger
