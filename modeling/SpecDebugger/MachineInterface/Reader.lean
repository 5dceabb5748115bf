/-
Reading records. A line is a prompt, or an optional token, a sign, and
what the sign asks for: a class with named values, or quoted text.

Every value takes at least one character, so that the length of the text
bounds the nesting: it is what the functions on nested values count down.
-/
import SpecDebugger.MachineInterface.Quoted
import SpecDebugger.MachineInterface.Record
import SpecDebugger.Text.Alphanumeric
import SpecDebugger.Text.Blank
import SpecDebugger.Text.Number

namespace SpecDebugger.MachineInterface

/-- Why a line is no record. -/
inductive Reason where
  | unknownRecord
  | missingClass
  | trailing
  | expectedField
  | unterminatedTuple
  | unterminatedList
  | expectedValue
  | expectedString
  | unterminatedString
deriving DecidableEq, Repr

/-- The wording of a reason. -/
def Reason.text : Reason → String
  | .unknownRecord => "unknown record type"
  | .missingClass => "missing record class"
  | .trailing => "trailing characters"
  | .expectedField => "expected name=value"
  | .unterminatedTuple => "unterminated tuple"
  | .unterminatedList => "unterminated list"
  | .expectedValue => "expected a value"
  | .expectedString => "expected a string"
  | .unterminatedString => "unterminated string"

/-- A line that is no record. -/
structure Malformed where
  reason : Reason
  line : String
deriving DecidableEq, Repr

/-- What the user is told. -/
def Malformed.message (m : Malformed) : String :=
  s!"malformed MI record ({m.reason.text}): {m.line}"

/-- A reader takes the front of a text and leaves the rest. -/
abbrev Reader (α : Type) := List Char → Except Reason (α × List Char)

/-- A character of the names of classes and fields. -/
def isNameChar (c : Char) : Bool :=
  Text.isAlphanumeric c || c == '-' || c == '_'

/-- Splits off the name in front, which may be empty. -/
def splitName (cs : List Char) : List Char × List Char :=
  (cs.takeWhile isNameChar, cs.dropWhile isNameChar)

/-- A quoted text. -/
def readQuoted : Reader String
  | '"' :: cs =>
    match unquote? cs with
    | some (text, rest) => .ok (String.ofList text, rest)
    | none => .error .unterminatedString
  | _ => .error .expectedString

/-- The name of a field and its equals sign. -/
def readName (cs : List Char) : Except Reason (String × List Char) :=
  match splitName cs with
  | (c :: name, '=' :: rest) => .ok (String.ofList (c :: name), rest)
  | _ => .error .expectedField

mutual

/-- A value. -/
def readValue : Nat → Reader Value
  | 0, _ => .error .expectedValue
  | depth + 1, cs =>
    match cs with
    | '"' :: _ => do
      let (text, rest) ← readQuoted cs
      pure (.const text, rest)
    | '\x7b' :: '\x7d' :: rest => .ok (.tuple [], rest)
    | '\x7b' :: rest => do
      let (fields, rest) ← readFields depth rest
      pure (.tuple fields, rest)
    | '[' :: ']' :: rest => .ok (.list [], rest)
    | '[' :: rest => do
      let (items, rest) ← readItems depth rest
      pure (.list items, rest)
    | _ => .error .expectedValue

/-- A name and its value. -/
def readField : Nat → Reader (String × Value)
  | 0, _ => .error .expectedField
  | depth + 1, cs => do
    let (name, rest) ← readName cs
    let (value, rest) ← readValue depth rest
    pure ((name, value), rest)

/-- The fields of a tuple, up to its closing brace. -/
def readFields : Nat → Reader (List (String × Value))
  | 0, _ => .error .expectedField
  | depth + 1, cs => do
    let (field, rest) ← readField depth cs
    match rest with
    | ',' :: rest => do
      let (fields, rest) ← readFields depth rest
      pure (field :: fields, rest)
    | '\x7d' :: rest => pure ([field], rest)
    | _ => .error .unterminatedTuple

/-- An item of a list: a value, or a field. -/
def readItem : Nat → Reader Value
  | 0, _ => .error .expectedField
  | depth + 1, cs =>
    match cs with
    | '"' :: _ | '\x7b' :: _ | '[' :: _ => readValue depth cs
    | _ => do
      let (field, rest) ← readField depth cs
      pure (.tuple [field], rest)

/-- The items of a list, up to its closing bracket. -/
def readItems : Nat → Reader (List Value)
  | 0, _ => .error .expectedField
  | depth + 1, cs => do
    let (item, rest) ← readItem depth cs
    match rest with
    | ',' :: rest => do
      let (items, rest) ← readItems depth rest
      pure (item :: items, rest)
    | ']' :: rest => pure ([item], rest)
    | _ => .error .unterminatedList

end

/-- How far the readers of nested values count down on a text: each character
is behind at most three of them. -/
def depthOf (cs : List Char) : Nat := 3 * cs.length + 3

/-- The fields of a record, each after a comma, up to the end of the line. -/
def readResults (rounds : Nat) (cs : List Char) :
    Except Reason (List (String × Value)) :=
  match rounds, cs with
  | _, [] => .ok []
  | rounds + 1, ',' :: rest => do
    let (field, rest) ← readField (depthOf rest) rest
    let fields ← readResults rounds rest
    pure (field :: fields)
  | _, _ => .error .trailing

/-- The class of a record and its fields. -/
def readBody (cs : List Char) :
    Except Reason (String × List (String × Value)) :=
  match splitName cs with
  | ([], _) => .error .missingClass
  | (name, rest) => do
    let fields ← readResults rest.length rest
    pure (String.ofList name, fields)

/-- The kind of asynchronous record that a sign stands for. -/
def AsyncKind.ofSign? (c : Char) : Option AsyncKind :=
  if c = '*' then some .exec else if c = '+' then some .status
  else if c = '=' then some .notify else none

/-- The source of output that a sign stands for. -/
def StreamKind.ofSign? (c : Char) : Option StreamKind :=
  if c = '~' then some .console else if c = '@' then some .target
  else if c = '&' then some .log else none

/-- A record after its token. -/
def readSigned (token : Option Nat) : List Char → Except Reason Record
  | [] => .error .unknownRecord
  | sign :: cs =>
    if sign = '^' then do
      let (category, fields) ← readBody cs
      pure (.result token category fields)
    else
      match AsyncKind.ofSign? sign, StreamKind.ofSign? sign with
      | some kind, _ => do
        let (category, fields) ← readBody cs
        pure (.async kind category fields)
      | none, some kind => do
        let (text, _) ← readQuoted cs
        pure (.stream kind text)
      | none, none => .error .unknownRecord

/-- The end of a line. -/
def isLineEnd (c : Char) : Bool := c == '\r' || c == '\n'

/-- What the debugger writes when it is ready for a command. -/
def promptText : List Char := "(gdb)".toList

/-- A record without its end of line. A token that does not fit in 32 bits is
none. -/
def readChars (cs : List Char) : Except Reason Record :=
  if Text.trim cs = promptText then .ok .prompt
  else
    readSigned (Text.ofDigits? Text.halfWordBound (cs.takeWhile Char.isDigit))
      (cs.dropWhile Char.isDigit)

/-- Reads a line as a record. -/
def Record.parse (line : String) : Except Malformed Record :=
  let cs := Text.dropEndWhile isLineEnd line.toList
  (readChars cs).mapError fun reason => ⟨reason, String.ofList cs⟩

end SpecDebugger.MachineInterface
