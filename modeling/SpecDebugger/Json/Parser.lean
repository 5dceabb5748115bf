/-
Reading JSON text. The tokens drive a machine whose stack holds the
arrays and objects that are still open, so nesting costs no recursion:
how deep a value may be nested is asked of the value (`Json.readable`), by
the reader of a record that looks at it.
-/
import SpecDebugger.Json.Basic
import SpecDebugger.Json.Token

namespace SpecDebugger.Json

/-- An array or object that waits for the value of its next element. The
elements read so far are in reverse. -/
inductive Open where
  | array (done : List Json)
  | object (done : List (Option String × Json)) (key : Option String)

/-- What may come next, inside the open containers of `stack`, the innermost
first. -/
inductive Awaiting where
  /-- A value. -/
  | value (stack : List Open)
  /-- The first item of an array, or its end. -/
  | firstItem (stack : List Open)
  /-- The first key of an object, or its end. -/
  | firstKey (stack : List Open)
  /-- A further key. -/
  | nextKey (stack : List Open) (done : List (Option String × Json))
  /-- The colon after a key. -/
  | colon (stack : List Open) (done : List (Option String × Json))
      (key : Option String)
  /-- A comma or the end of an array. -/
  | afterItem (stack : List Open) (done : List Json)
  /-- A comma or the end of an object. -/
  | afterMember (stack : List Open) (done : List (Option String × Json))
  /-- Nothing: the value is complete. -/
  | nothing (value : Json)

namespace Awaiting

/-- Hands a complete value to the innermost open container. -/
def complete (value : Json) : List Open → Awaiting
  | [] => .nothing value
  | .array done :: stack => .afterItem stack (value :: done)
  | .object done key :: stack => .afterMember stack ((key, value) :: done)

/-- Takes the first token of a value. -/
def startValue (stack : List Open) : Token → Option Awaiting
  | .openArray => some (.firstItem stack)
  | .openObject => some (.firstKey stack)
  | .null => some (complete .null stack)
  | .bool b => some (complete (.bool b) stack)
  | .number n => some (complete (.number n) stack)
  | .string s => some (complete (.string s) stack)
  | _ => none

/-- Takes one token. -/
def step : Awaiting → Token → Option Awaiting
  | .value stack, t => startValue stack t
  | .firstItem stack, .closeArray => some (complete (.array []) stack)
  | .firstItem stack, t => startValue (.array [] :: stack) t
  | .firstKey stack, .closeObject => some (complete (.object []) stack)
  | .firstKey stack, .string key => some (.colon stack [] key)
  | .nextKey stack done, .string key => some (.colon stack done key)
  | .colon stack done key, .colon => some (.value (.object done key :: stack))
  | .afterItem stack done, .comma => some (.value (.array done :: stack))
  | .afterItem stack done, .closeArray =>
    some (complete (.array done.reverse) stack)
  | .afterMember stack done, .comma => some (.nextKey stack done)
  | .afterMember stack done, .closeObject =>
    some (complete (.object done.reverse) stack)
  | _, _ => none

/-- Takes all tokens. -/
def run : Awaiting → List Token → Option Awaiting
  | state, [] => some state
  | state, t :: ts =>
    match state.step t with
    | none => none
    | some state => run state ts

end Awaiting

/-- The value that a sequence of tokens writes. -/
def ofTokens? (tokens : List Token) : Option Json :=
  match (Awaiting.value []).run tokens with
  | some (.nothing value) => some value
  | _ => none

/-- The value that a text writes, or `none` when it is not JSON. -/
def parse? (s : String) : Option Json :=
  (Token.ofText? s.toList).bind ofTokens?

end SpecDebugger.Json
