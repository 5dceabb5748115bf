/-
JSON numerals and the numbers they stand for. A record only ever wants
natural numbers of 64 bits; all other numerals matter only in that one
too large for a double-precision float is refused. Such a numeral is
turned into a float as serde_json does it without its option for exact
round trips: from the leading digits that fit in 64 bits, and a power of
ten.
-/
import SpecDebugger.Text.Number

namespace SpecDebugger.Json

/-- A numeral, by its digits. -/
structure Numeral where
  /-- Whether a minus sign stands in front. -/
  negative : Bool
  /-- The digits before the point. -/
  whole : List Char
  /-- The digits after the point, empty when there is no point. -/
  fraction : List Char
  /-- The digits of the exponent, if there is one, and whether it is
  negative. -/
  exponent : Option (Bool × List Char)
deriving DecidableEq, Repr

namespace Numeral

/-- The numeral of a natural number. -/
def ofNat (n : Nat) : Numeral := ⟨false, Text.digits n, [], none⟩

/-- The numeral of an integer. -/
def ofInt (i : Int) : Numeral :=
  ⟨decide (i < 0), Text.digits i.natAbs, [], none⟩

/-- The number of a numeral without sign, point and exponent, if it is below 2
^ 64. -/
def toNat? (n : Numeral) : Option Nat :=
  if n.negative || !n.fraction.isEmpty || n.exponent.isSome then none
  else Text.ofDigits? Text.wordBound n.whole

/-- Takes digits into the significand `m` as long as it stays below 2 ^ 64,
and returns how many are left over. -/
def absorb (m : Nat) : List Char → Nat × Nat
  | [] => (m, 0)
  | c :: cs =>
    let next := 10 * m + (c.toNat - '0'.toNat)
    if next < Text.wordBound then absorb next cs else (m, cs.length + 1)

/-- Rounds `n` to `bits` significant bits, a tie to the even neighbour. -/
def roundTo (bits n : Nat) : Nat :=
  if n < Nat.pow 2 bits then n
  else
    let shift := n.log2 + 1 - bits
    let unit := Nat.pow 2 shift
    let quotient := n / unit
    let twice := 2 * (n % unit)
    let up := decide (unit < twice) || (twice == unit && quotient % 2 == 1)
    (if up then quotient + 1 else quotient) * unit

/-- Whether the double nearest to `m · 10 ^ e` is finite, when both factors are
rounded to 53 bits before they are multiplied. -/
def finite (m : Nat) (e : Int) : Bool :=
  if m = 0 || e < 0 then true
  else if 308 < e then false
  else decide (roundTo 53 m * roundTo 53 (Nat.pow 10 e.toNat) <
    (Nat.pow 2 54 - 1) * Nat.pow 2 970)

/-- Restricts an exponent to 32 bits. -/
def clampExponent (e : Int) : Int :=
  max (-Text.intBound) (min e (Text.intBound - 1))

/-- Whether the numeral stands for a finite double. The significand holds the
leading digits that fit in 64 bits; a digit before the point that does not fit
counts as a power of ten, one after the point is dropped. -/
def inRange (n : Numeral) : Bool :=
  let (m, beyond) := absorb 0 n.whole
  let (m, dropped) := absorb m n.fraction
  let scale : Int := beyond - (n.fraction.length - dropped : Nat)
  match n.exponent with
  | none => finite m scale
  | some (negative, ds) =>
    let e := Nat.ofDigitChars 10 ds 0
    if Text.intBound ≤ e then m == 0 || negative
    else finite m (clampExponent (if negative then scale - e else scale + e))

end Numeral

end SpecDebugger.Json
