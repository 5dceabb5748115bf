/-
Inclusive ranges of generated-code lines.
-/
namespace SpecDebugger

/-- The lines from `first` to `last`, both included; none when
`last < first`. -/
structure LineRange where
  first : Nat
  last : Nat
deriving DecidableEq, Repr

namespace LineRange

/-- Whether a line lies in the range. -/
def contains (r : LineRange) (line : Nat) : Bool :=
  decide (r.first ≤ line) && decide (line ≤ r.last)

/-- Whether the bounds of `inner` lie within those of `r`. -/
def encloses (r inner : LineRange) : Bool :=
  decide (r.first ≤ inner.first) && decide (inner.last ≤ r.last)

instance : ToString LineRange where
  toString r := s!"{r.first}-{r.last}"

theorem contains_iff {r : LineRange} {line : Nat} :
    r.contains line = true ↔ r.first ≤ line ∧ line ≤ r.last := by
  simp [contains]

theorem encloses_iff {r inner : LineRange} :
    r.encloses inner = true ↔ r.first ≤ inner.first ∧ inner.last ≤ r.last := by
  simp [encloses]

/-- A line of a range inside another is a line of the outer one. -/
theorem contains_of_encloses {r inner : LineRange} {line : Nat}
    (h : r.encloses inner = true)
    (hl : inner.contains line = true) : r.contains line = true := by
  rw [encloses_iff] at h
  rw [contains_iff] at hl ⊢
  omega

end LineRange

end SpecDebugger
