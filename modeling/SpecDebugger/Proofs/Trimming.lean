/-
What is left when characters are dropped at the ends of a text: the part
that does not start, or does not end, with one of them.
-/
import Mathlib.Data.List.TakeWhile
import SpecDebugger.Text.Blank
import SpecDebugger.Text.Number

namespace SpecDebugger.Text

variable {p : Char → Bool}

/-- What is left after dropping from the front: the text without some
characters that are dropped, which no such one begins. -/
theorem dropWhile_eq_iff {cs rest : List Char} :
    cs.dropWhile p = rest ↔
      (∀ c ∈ rest.head?, p c = false) ∧
        ∃ front, (∀ c ∈ front, p c = true) ∧ cs = front ++ rest := by
  constructor
  · rintro rfl
    constructor
    · intro c hc
      have hhead := List.head?_dropWhile_not p cs
      rw [Option.mem_def.mp hc] at hhead
      exact hhead
    · exact ⟨cs.takeWhile p, fun c hc => List.mem_takeWhile_imp hc,
        List.takeWhile_append_dropWhile.symm⟩
  · intro hyp
    obtain ⟨hhead, front, hfront, rfl⟩ := hyp
    rw [List.dropWhile_append_of_pos hfront]
    cases rest with
    | nil => rfl
    | cons c rest => simp [hhead c rfl]

/-- What is left after dropping from the end. -/
theorem dropEndWhile_eq_iff {cs body : List Char} :
    dropEndWhile p cs = body ↔
      (∀ c ∈ body.getLast?, p c = false) ∧
        ∃ ending, (∀ c ∈ ending, p c = true) ∧ cs = body ++ ending := by
  unfold dropEndWhile
  rw [← List.reverse_inj, List.reverse_reverse, dropWhile_eq_iff,
    List.head?_reverse]
  refine and_congr_right fun _ => ?_
  constructor
  · intro hyp
    obtain ⟨front, hfront, hcs⟩ := hyp
    refine ⟨front.reverse, fun c hc => hfront c (List.mem_reverse.mp hc), ?_⟩
    rw [← List.reverse_inj, hcs, List.reverse_append, List.reverse_reverse]
  · intro hyp
    obtain ⟨ending, hending, rfl⟩ := hyp
    exact ⟨ending.reverse, fun c hc => hending c (List.mem_reverse.mp hc),
      List.reverse_append⟩

/-- A text is trimmed to what stands between the white space at its ends. -/
theorem trim_eq_iff {cs word : List Char} :
    trim cs = word ↔
      (∀ c ∈ word.head?, isBlank c = false) ∧
        (∀ c ∈ word.getLast?, isBlank c = false) ∧
        ∃ front ending, (∀ c ∈ front, isBlank c = true) ∧
          (∀ c ∈ ending, isBlank c = true) ∧ cs = front ++ word ++ ending := by
  unfold trim trimEnd trimStart
  rw [dropEndWhile_eq_iff]
  constructor
  · intro hyp
    obtain ⟨hlast, ending, hending, hstart⟩ := hyp
    obtain ⟨hhead, front, hfront, rfl⟩ := dropWhile_eq_iff.mp hstart
    refine ⟨?_, hlast, front, ending, hfront, hending,
      (List.append_assoc _ _ _).symm⟩
    intro c hc
    exact hhead c (by rw [List.head?_append, Option.mem_def.mp hc]; rfl)
  · intro hyp
    obtain ⟨hhead, hlast, front, ending, hfront, hending, rfl⟩ := hyp
    rw [List.append_assoc, List.dropWhile_append_of_pos hfront]
    refine ⟨hlast, ?_⟩
    cases word with
    | nil => exact ⟨[], List.forall_mem_nil _, by simpa using hending⟩
    | cons c word => exact ⟨ending, hending, by simp [hhead c rfl]⟩

/-- Nothing is left of white space, and something of everything else. -/
theorem trim_eq_nil_iff {cs : List Char} :
    trim cs = [] ↔ ∀ c ∈ cs, isBlank c = true := by
  rw [trim_eq_iff]
  constructor
  · rintro ⟨-, -, front, ending, hfront, hending, rfl⟩
    simpa [or_imp, forall_and] using ⟨hfront, hending⟩
  · intro h
    exact ⟨by simp, by simp, cs, [], h, by simp, by simp⟩

theorem trim_ne_nil_iff {cs : List Char} :
    trim cs ≠ [] ↔ ∃ c ∈ cs, isBlank c = false := by
  rw [ne_eq, trim_eq_nil_iff]
  simp

/-- What is trimmed does not begin with white space. -/
theorem not_isBlank_of_head?_trim {cs : List Char} {c : Char}
    (h : c ∈ (trim cs).head?) : isBlank c = false :=
  (trim_eq_iff.mp rfl).1 c h

/-- What neither begins nor ends with white space is trimmed. -/
theorem trim_eq_self {cs : List Char}
    (start : ∀ c ∈ cs.head?, isBlank c = false)
    (ending : ∀ c ∈ cs.getLast?, isBlank c = false) : trim cs = cs :=
  trim_eq_iff.mpr ⟨start, ending, [], [], by simp, by simp, by simp⟩

/-- A text without white space is trimmed. -/
theorem trim_eq_self_of_forall {cs : List Char}
    (h : ∀ c ∈ cs, isBlank c = false) : trim cs = cs :=
  trim_eq_self (fun c hc => h c (List.mem_of_mem_head? hc))
    fun c hc => h c (List.mem_of_getLast? hc)

-- ============================================================ digits

theorem not_isBlank_of_isDigit {c : Char} (h : c.isDigit = true) :
    isBlank c = false := by
  have hrange : 48 ≤ c.toNat ∧ c.toNat ≤ 57 := by
    simpa [Char.isDigit, UInt32.le_iff_toNat_le] using h
  refine Bool.eq_false_iff.mpr fun hblank => ?_
  simp only [isBlank, Bool.or_eq_true, beq_iff_eq, Bool.and_eq_true,
    decide_eq_true_eq, Table.has_iff] at hblank
  rcases hblank with (rfl | hcontrol) | ⟨range, hmem, hlow, hhigh⟩
  · exact absurd hrange (by decide)
  · omega
  · have hbeyond : ∀ range ∈ blanks, 57 < range.1 := by decide
    have := hbeyond range hmem
    omega

theorem not_isBlank_of_mem_digits {n : Nat} {c : Char} (h : c ∈ digits n) :
    isBlank c = false :=
  not_isBlank_of_isDigit (isDigit_of_mem_digits h)

@[simp]
theorem trim_digits (n : Nat) : trim (digits n) = digits n :=
  trim_eq_self_of_forall fun _ hc => not_isBlank_of_mem_digits hc

end SpecDebugger.Text
