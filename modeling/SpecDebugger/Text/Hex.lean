/-
Hexadecimal digits, and bytes written by two of them each.
-/
namespace SpecDebugger.Text

/-- The value of a hexadecimal digit. -/
def hexDigit? (c : Char) : Option Nat :=
  if '0' ≤ c ∧ c ≤ '9' then some (c.toNat - '0'.toNat)
  else if 'a' ≤ c ∧ c ≤ 'f' then some (c.toNat - 'a'.toNat + 10)
  else if 'A' ≤ c ∧ c ≤ 'F' then some (c.toNat - 'A'.toNat + 10)
  else none

/-- The bytes that pairs of hexadecimal digits write. -/
def hexBytes? : List Char → Option (List UInt8)
  | [] => some []
  | a :: b :: cs => do
    let a ← hexDigit? a
    let b ← hexDigit? b
    let rest ← hexBytes? cs
    pure (UInt8.ofNat (16 * a + b) :: rest)
  | [_] => none

end SpecDebugger.Text
