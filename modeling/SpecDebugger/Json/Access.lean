/-
Looking into JSON values.
-/
import SpecDebugger.Json.Basic

namespace SpecDebugger.Json

/-- A natural number below 2 ^ 64. -/
def nat? : Json → Option Nat
  | .number n => n.toNat?
  | _ => none

/-- An integer whose digits write a number below 2 ^ 64. -/
def int? : Json → Option Int
  | .number n =>
    ({ n with negative := false } : Numeral).toNat?.map fun (m : Nat) =>
      if n.negative then -(m : Int) else (m : Int)
  | _ => none

/-- A truth value. -/
def bool? : Json → Option Bool
  | .bool b => some b
  | _ => none

/-- The text of a string. -/
def text? : Json → Option String
  | .string s => s
  | _ => none

/-- The items of an array. -/
def items? : Json → Option (List Json)
  | .array items => some items
  | _ => none

/-- All items of an array, each read as a value of one kind. -/
def list? {α : Type} (read : Json → Option α) : Json → Option (List α)
  | .array items => items.mapM read
  | _ => none

/-- The member of a key; one that is `null` counts as missing. -/
def member? (key : String) : Json → Option Json
  | .object members =>
    match members.lookup (some key) with
    | some .null => none
    | value => value
  | _ => none

end SpecDebugger.Json
