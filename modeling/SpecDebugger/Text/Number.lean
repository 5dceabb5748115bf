/-
Numbers in text: what is read as a number of limited size, and the
decimal form that is written.
-/
namespace SpecDebugger.Text

/-- The decimal digits of a number, without leading zeros. -/
def digits (n : Nat) : List Char := Nat.toDigits 10 n

/-- One or more ASCII digits. -/
def isDigits (cs : List Char) : Bool := !cs.isEmpty && cs.all Char.isDigit

/-- The number that a run of digits writes, if it is below `bound`. -/
def ofDigits? (bound : Nat) (cs : List Char) : Option Nat :=
  if isDigits cs then
    let n := Nat.ofDigitChars 10 cs 0
    if n < bound then some n else none
  else none

/-- Reads a number below `bound`: digits, which a plus sign may precede. -/
def natural? (bound : Nat) : List Char → Option Nat
  | '+' :: cs => ofDigits? bound cs
  | cs => ofDigits? bound cs

/-- The bound of line numbers, columns and limits. -/
def wordBound : Nat := UInt64.size

/-- The bound of breakpoint numbers and command tokens. -/
def halfWordBound : Nat := UInt32.size

/-- The bound of 32-bit integers. -/
def intBound : Int := 0x80000000

/-- An octal digit. -/
def isOctal (c : Char) : Bool := decide ('0' ≤ c) && decide (c ≤ '7')

/-- Reads an octal number with an optional sign, in the range of 32-bit
integers. -/
def octal? (cs : List Char) : Option Int :=
  let (negative, ds) :=
    match cs with
    | '-' :: ds => (true, ds)
    | '+' :: ds => (false, ds)
    | ds => (false, ds)
  if !ds.isEmpty && ds.all isOctal then
    let n : Int := Nat.ofDigitChars 8 ds 0
    let i := if negative then -n else n
    if -intBound ≤ i ∧ i < intBound then some i else none
  else none

theorem digits_ne_nil (n : Nat) : digits n ≠ [] := Nat.toDigits_ne_nil

theorem isDigit_of_mem_digits {n : Nat} {c : Char} (h : c ∈ digits n) :
    c.isDigit = true :=
  Nat.isDigit_of_mem_toDigits (by decide) (by decide) h

/-- A number is written without any character that is no digit. -/
theorem not_mem_digits {c : Char} (h : c.isDigit = false) (n : Nat) :
    c ∉ digits n := by
  intro hc
  rw [isDigit_of_mem_digits hc] at h
  cases h

/-- Only zero is written with a zero in front. -/
theorem head?_digits {n : Nat} (pos : 0 < n) :
    (digits n).head? ≠ some '0' := by
  have hsmall : ∀ m < 10, 0 < m → m.digitChar ≠ '0' := by decide
  induction n using Nat.strongRecOn with
  | ind n ih =>
      unfold digits
      rw [Nat.toDigits_eq_if (by omega)]
      split
      next hlt => simpa using hsmall n hlt pos
      next hge =>
        have hfront := ih (n / 10) (by omega) (by omega)
        obtain ⟨c, cs, hcs⟩ :=
          List.exists_cons_of_ne_nil (digits_ne_nil (n / 10))
        rw [hcs] at hfront
        unfold digits at hcs
        rw [hcs, List.cons_append]
        exact hfront

/-- Digits are one or more, and nothing else. -/
theorem isDigits_iff {cs : List Char} :
    isDigits cs = true ↔ cs ≠ [] ∧ ∀ c ∈ cs, c.isDigit = true := by
  simp [isDigits]

@[simp]
theorem isDigits_digits (n : Nat) : isDigits (digits n) = true :=
  isDigits_iff.2 ⟨digits_ne_nil n, fun _ hc => isDigit_of_mem_digits hc⟩

/-- A number below the bound is read back from its digits. -/
theorem ofDigits?_digits {bound n : Nat} (h : n < bound) :
    ofDigits? bound (digits n) = some n := by
  have e : Nat.ofDigitChars 10 (digits n) 0 = n :=
    Nat.ofDigitChars_ten_toDigits
  simp [ofDigits?, e, h]

/-- A number below the bound is read back from its digits. -/
theorem natural?_digits {bound n : Nat} (h : n < bound) :
    natural? bound (digits n) = some n := by
  rw [← ofDigits?_digits h]
  unfold natural?
  split
  next cs heq =>
    have hplus : '+' ∈ digits n := heq ▸ List.mem_cons_self
    exact absurd hplus (not_mem_digits rfl n)
  next => rfl

/-- What is read is the number that digits write, if it is below the bound. -/
theorem ofDigits?_eq_some_iff {bound n : Nat} {cs : List Char} :
    ofDigits? bound cs = some n ↔
      cs ≠ [] ∧ (∀ c ∈ cs, c.isDigit = true) ∧
        Nat.ofDigitChars 10 cs 0 = n ∧ n < bound := by
  rw [← and_assoc, ← isDigits_iff]
  unfold ofDigits?
  by_cases hdigits : isDigits cs = true
  · rw [if_pos hdigits]
    dsimp only
    split
    next hfits =>
      rw [Option.some.injEq]
      constructor
      · rintro rfl
        exact ⟨hdigits, rfl, hfits⟩
      · exact fun hyp => hyp.2.1
    next hlarge =>
      refine iff_of_false nofun ?_
      rintro ⟨-, rfl, hfits⟩
      exact hlarge hfits
  · rw [if_neg hdigits]
    exact iff_of_false nofun fun hyp => hdigits hyp.1

/-- Digits that are read write a number below the bound. -/
theorem lt_of_ofDigits? {bound n : Nat} {cs : List Char}
    (h : ofDigits? bound cs = some n) :
    n < bound :=
  (ofDigits?_eq_some_iff.1 h).2.2.2

/-- A natural number that is read is below the bound. -/
theorem lt_of_natural? {bound n : Nat} {cs : List Char}
    (h : natural? bound cs = some n) :
    n < bound := by
  unfold natural? at h
  split at h <;> exact lt_of_ofDigits? h

end SpecDebugger.Text
