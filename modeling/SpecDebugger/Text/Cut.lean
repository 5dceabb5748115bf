/-
Cutting a text at the last occurrence of a character.
-/
namespace SpecDebugger.Text

/-- The text before and after the last `sep`, or `none` when there is no
`sep`. -/
def cutAtLast (sep : Char) : List Char → Option (List Char × List Char)
  | [] => none
  | c :: cs =>
    match cutAtLast sep cs with
    | some (before, after) => some (c :: before, after)
    | none => if c = sep then some ([], cs) else none

theorem cutAtLast_of_not_mem {sep : Char} {cs : List Char} (h : sep ∉ cs) :
    cutAtLast sep cs = none := by
  induction cs with
  | nil => rfl
  | cons c cs ih =>
    simp only [List.mem_cons, not_or] at h
    simp [cutAtLast, ih h.2, Ne.symm h.1]

theorem not_mem_of_cutAtLast_none {sep : Char} {cs : List Char}
    (h : cutAtLast sep cs = none) :
    sep ∉ cs := by
  induction cs with
  | nil => simp
  | cons c cs ih =>
    cases hc : cutAtLast sep cs with
    | some p => simp [cutAtLast, hc] at h
    | none =>
      have hs : c ≠ sep := fun e => by simp [cutAtLast, hc, e] at h
      simp [Ne.symm hs, ih hc]

/-- A text is cut at the last separator, so that none is in what comes
after. -/
theorem cutAtLast_append {sep : Char} (before : List Char) {after : List Char}
    (h : sep ∉ after) :
    cutAtLast sep (before ++ sep :: after) = some (before, after) := by
  induction before with
  | nil => simp [cutAtLast, cutAtLast_of_not_mem h]
  | cons b bs ih => simp [cutAtLast, ih]

/-- The cut loses nothing but the separator, and leaves none after it. -/
theorem eq_of_cutAtLast {sep : Char} {cs before after : List Char}
    (h : cutAtLast sep cs = some (before, after)) :
    cs = before ++ sep :: after ∧ sep ∉ after := by
  induction cs generalizing before with
  | nil => simp [cutAtLast] at h
  | cons c cs ih =>
    cases hc : cutAtLast sep cs with
    | some p =>
      simp only [cutAtLast, hc, Option.some.injEq, Prod.mk.injEq] at h
      obtain ⟨rfl, rfl⟩ := h
      obtain ⟨e, hn⟩ := ih hc
      exact ⟨by rw [e]; rfl, hn⟩
    | none =>
      have hn := not_mem_of_cutAtLast_none hc
      by_cases hs : c = sep
      · simp only [cutAtLast, hc, hs, if_true, Option.some.injEq,
          Prod.mk.injEq] at h
        obtain ⟨rfl, rfl⟩ := h
        exact ⟨by rw [hs]; rfl, hn⟩
      · simp [cutAtLast, hc, hs] at h

end SpecDebugger.Text
