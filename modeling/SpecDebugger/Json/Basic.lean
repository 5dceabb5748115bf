/-
JSON values, as far as a reader of records has to tell them apart.
Objects keep their members in the order of the text, repeated keys
included; numbers keep their digits; a string is `none` when its
escapes spell no text, which happens when half of a surrogate pair
stands alone.

Records are read and written with the package serde_json. What is
followed of it is what it documents:

- nesting: a value whose arrays and objects are nested 128 deep or more is
  an error (`readable`, `Index.Record.propertyDepth`);
- numbers: a numeral without point and exponent is an integer, as long as
  it fits in 64 bits; every other one is a double, and one that no double
  is near to is an error. A field that wants a natural number takes only
  the first kind (`Numeral.toNat?`, `Numeral.inRange`);
- keys: a field of a record that is given twice is an error, and so is a
  required one that is missing; a member that is no field is skipped, which
  it has to be well formed for (`Index.Record.field?`);
- strings: control characters are escaped, and half of a surrogate pair is
  an error where its text is wanted (`Token.stringBody`);
- a text is one value, with white space around it at most.
-/
import SpecDebugger.Json.Numeral

namespace SpecDebugger

/-- A JSON value. -/
inductive Json where
  | null
  | bool (b : Bool)
  | number (n : Json.Numeral)
  | string (text : Option String)
  | array (items : List Json)
  | object (members : List (Option String × Json))
deriving Inhabited

namespace Json

/-- The string that spells `s`. -/
def text (s : String) : Json := .string (some s)

/-- The numeral of a natural number. -/
def nat (n : Nat) : Json := .number (.ofNat n)

/-- The numeral of an integer. -/
def int (i : Int) : Json := .number (.ofInt i)

/-- The object with the given members. -/
def record (members : List (String × Json)) : Json :=
  .object (members.map fun (k, v) => (some k, v))

/-- The value, or `null` when there is none. -/
def ofOption {α : Type} (f : α → Json) : Option α → Json
  | none => .null
  | some a => f a

mutual

/-- Whether a value can be read in full: its strings spell texts, its numbers
are in range, and arrays and objects are nested at most `depth` deep. -/
def readable (depth : Nat) : Json → Bool
  | .null => true
  | .bool _ => true
  | .number n => n.inRange
  | .string s => s.isSome
  | .array items =>
    match depth with
    | 0 => false
    | depth + 1 => readableItems depth items
  | .object members =>
    match depth with
    | 0 => false
    | depth + 1 => readableMembers depth members

/-- Whether every item can be read in full. -/
def readableItems (depth : Nat) : List Json → Bool
  | [] => true
  | item :: items => readable depth item && readableItems depth items

/-- Whether every key and every value can be read in full. -/
def readableMembers (depth : Nat) : List (Option String × Json) → Bool
  | [] => true
  | (key, value) :: members =>
    key.isSome && readable depth value && readableMembers depth members

end

end Json

end SpecDebugger
