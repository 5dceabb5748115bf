/-
The numerals of natural numbers: in range, and read back.

A numeral is read up to a character that does not continue it (`Ends`).
There the digits of a natural number are its numeral again
(`numeral?_digits`), since only zero has a zero in front. One of 64 bits
is in range as well (`Numeral.inRange_ofNat`): the significand takes all
of its digits, and rounding at most doubles it.
-/
import SpecDebugger.Json.Printer
import SpecDebugger.Json.Token

namespace SpecDebugger.Json

-- =========================================================== in range

namespace Numeral

theorem le_ofDigitChars (m : Nat) (cs : List Char) :
    m ≤ Nat.ofDigitChars 10 cs m := by
  induction cs generalizing m with
  | nil => exact Nat.le_refl m
  | cons c cs ih =>
      have hstep := ih (10 * m + (c.toNat - '0'.toNat))
      rw [Nat.ofDigitChars_cons]
      omega

/-- The significand takes all digits of a number of 64 bits. -/
theorem absorb_eq {m : Nat} {cs : List Char}
    (h : Nat.ofDigitChars 10 cs m < Text.wordBound) :
    absorb m cs = (Nat.ofDigitChars 10 cs m, 0) := by
  induction cs generalizing m with
  | nil => rfl
  | cons c cs ih =>
      rw [Nat.ofDigitChars_cons] at h ⊢
      have hnext := Nat.lt_of_le_of_lt (le_ofDigitChars _ cs) h
      rw [absorb, if_pos hnext, ih h]

/-- Rounding at most doubles a number. -/
theorem roundTo_le {bits : Nat} (pos : 0 < bits) (n : Nat) :
    roundTo bits n ≤ 2 * n := by
  unfold roundTo
  split
  next => omega
  next hlarge =>
    dsimp only
    generalize hunit : Nat.pow 2 (n.log2 + 1 - bits) = unit
    have hn : n ≠ 0 := by
      intro hzero
      subst hzero
      exact hlarge (Nat.pow_pos (by omega))
    have hunit_le : unit ≤ n := by
      calc unit = 2 ^ (n.log2 + 1 - bits) := hunit.symm
        _ ≤ 2 ^ n.log2 := Nat.pow_le_pow_right (by omega) (by omega)
        _ ≤ n := Nat.log2_self_le hn
    have hquotient : n / unit * unit ≤ n := Nat.div_mul_le_self n unit
    split
    · rw [Nat.add_mul]
      omega
    · omega

/-- Every number of 64 bits is near to some double. -/
theorem finite_zero {n : Nat} (h : n < Text.wordBound) :
    finite n 0 = true := by
  have hround := @roundTo_le 53 (by omega) n
  have hone : roundTo 53 (Nat.pow 10 (0 : Int).toNat) = 1 := by decide +kernel
  have hlarge : 2 * Text.wordBound < (Nat.pow 2 54 - 1) * Nat.pow 2 970 := by
    decide +kernel
  unfold finite
  rw [hone]
  split
  · rfl
  · rw [if_neg (by decide)]
    refine decide_eq_true ?_
    omega

/-- A number of 64 bits can be skipped as well as read. -/
theorem inRange_ofNat {n : Nat} (h : n < Text.wordBound) :
    (ofNat n).inRange = true := by
  have hvalue : Nat.ofDigitChars 10 (Text.digits n) 0 = n :=
    Nat.ofDigitChars_ten_toDigits
  have habsorb : absorb 0 (Text.digits n) = (n, 0) := by
    rw [absorb_eq (by rwa [hvalue]), hvalue]
  unfold inRange ofNat
  rw [habsorb]
  exact finite_zero h

/-- The numeral of a number of 64 bits stands for that number. -/
theorem toNat?_ofNat {n : Nat} (h : n < Text.wordBound) :
    (ofNat n).toNat? = some n := by
  simpa [toNat?, ofNat] using Text.ofDigits?_digits h

theorem lt_of_toNat? {n : Numeral} {m : Nat} (h : n.toNat? = some m) :
    m < Text.wordBound := by
  unfold toNat? at h
  split at h
  · cases h
  · exact Text.lt_of_ofDigits? h

end Numeral

-- ========================================================== read back

/-- What may follow a numeral: nothing, or a character that does not
continue it. -/
def Ends (rest : List Char) : Prop :=
  ∀ c, rest.head? = some c →
    c.isDigit = false ∧ c ≠ '.' ∧ c ≠ 'e' ∧ c ≠ 'E'

theorem ends_nil : Ends [] := by
  intro c hc
  cases hc

theorem ends_cons {c : Char} {cs : List Char}
    (hc : c.isDigit = false ∧ c ≠ '.' ∧ c ≠ 'e' ∧ c ≠ 'E') :
    Ends (c :: cs) := by
  intro d hd
  cases hd
  exact hc

open Token

/-- Digits are split off up to where the numeral ends. -/
theorem splitDigits_append {ds rest : List Char}
    (digits : ∀ c ∈ ds, c.isDigit = true) (stop : Ends rest) :
    splitDigits (ds ++ rest) = (ds, rest) := by
  unfold splitDigits
  rw [List.takeWhile_append_of_pos digits, List.dropWhile_append_of_pos digits]
  cases rest with
  | nil => simp
  | cons c rest =>
      have hc := (stop c rfl).1
      simp [hc]

/-- Where a numeral ends there is no fraction. -/
theorem fraction?_of_ends {rest : List Char} (stop : Ends rest) :
    fraction? rest = some ([], rest) := by
  unfold fraction?
  split
  next cs => exact absurd rfl (stop '.' rfl).2.1
  next => rfl

/-- Where the numeral ends there is no exponent. -/
theorem exponent?_of_ends {rest : List Char} (stop : Ends rest) :
    exponent? rest = some (none, rest) := by
  cases rest with
  | nil => rfl
  | cons c rest =>
      obtain ⟨-, -, he, hE⟩ := stop c rfl
      simp [exponent?, he, hE]

/-- The digits of a natural number are read as its numeral. -/
theorem numeral?_digits (n : Nat) {rest : List Char} (stop : Ends rest) :
    numeral? (Text.digits n ++ rest) = some (.ofNat n, rest) := by
  have hdigits : ∀ c ∈ Text.digits n, c.isDigit = true :=
    fun c hc => Text.isDigit_of_mem_digits hc
  have hsplit := splitDigits_append hdigits stop
  have hfraction := fraction?_of_ends stop
  have hexponent := exponent?_of_ends stop
  obtain ⟨c, ds, hcons⟩ := List.exists_cons_of_ne_nil (Text.digits_ne_nil n)
  have hc : c.isDigit = true := hdigits c (hcons ▸ List.mem_cons_self)
  unfold numeral? Numeral.ofNat
  rw [hcons, List.cons_append]
  split
  next hsign =>
    split at hsign
    next heq =>
      -- a digit is no sign
      cases heq
      cases hc
    next =>
      cases hsign
      split
      next heq =>
        -- a zero in front is the whole number
        cases heq
        have hzero : n = 0 := Nat.eq_zero_of_not_pos fun pos =>
          Text.head?_digits pos (by rw [hcons]; rfl)
        subst hzero
        cases hcons
        simp [hfraction, hexponent]
      next =>
        rw [← List.cons_append, ← hcons, hsplit, hcons]
        simp [hfraction, hexponent]

end SpecDebugger.Json
