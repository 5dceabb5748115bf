/-
Writing JSON text as serde_json does when it is not asked to be pretty:
without white space between tokens, members in their order, and nothing
escaped in a string but quotes, backslashes and control characters.
-/
import SpecDebugger.Json.Basic

namespace SpecDebugger.Json

/-- One character inside a string. -/
def printChar (c : Char) : String :=
  match c with
  | '"' => "\\\""
  | '\\' => "\\\\"
  | '\n' => "\\n"
  | '\r' => "\\r"
  | '\t' => "\\t"
  | '\x08' => "\\b"
  | '\x0c' => "\\f"
  | c =>
    if c.toNat < 0x20 then
      let hex := Nat.toDigits 16 c.toNat
      String.ofList (['\\', 'u'] ++ List.replicate (4 - hex.length) '0' ++ hex)
    else c.toString

/-- A string between its quotes. -/
def printText (s : String) : String :=
  "\"" ++ String.join (s.toList.map printChar) ++ "\""

/-- A string; one that spells no text is written as an empty one. -/
def printString : Option String → String
  | some s => printText s
  | none => printText ""

/-- A numeral by its digits. -/
def Numeral.print (n : Numeral) : String :=
  let sign := if n.negative then "-" else ""
  let fraction :=
    if n.fraction.isEmpty then "" else "." ++ String.ofList n.fraction
  let exponent :=
    match n.exponent with
    | none => ""
    | some (negative, ds) =>
      (if negative then "e-" else "e") ++ String.ofList ds
  sign ++ String.ofList n.whole ++ fraction ++ exponent

mutual

/-- The text of a value. -/
def print : Json → String
  | .null => "null"
  | .bool true => "true"
  | .bool false => "false"
  | .number n => n.print
  | .string s => printString s
  | .array items => "[" ++ ",".intercalate (printItems items) ++ "]"
  | .object members =>
    "\x7b" ++ ",".intercalate (printMembers members) ++ "\x7d"

/-- The texts of the items. -/
def printItems : List Json → List String
  | [] => []
  | item :: items => print item :: printItems items

/-- The texts of the members. -/
def printMembers : List (Option String × Json) → List String
  | [] => []
  | (key, value) :: members =>
    (printString key ++ ":" ++ print value) :: printMembers members

end

end SpecDebugger.Json
