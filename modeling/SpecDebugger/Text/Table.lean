/-
Sets of characters given as ranges of code points. The tables of the
neighbouring modules are written by range, in ascending order, and say
nothing about ASCII: the functions that use them settle ASCII first.
-/
namespace SpecDebugger.Text

/-- A set of characters: the code points of its ranges, both ends included. -/
abbrev Table := List (Nat × Nat)

/-- Membership in one of the ranges. -/
def Table.has (t : Table) (c : Char) : Bool :=
  t.any fun r => decide (r.1 ≤ c.toNat) && decide (c.toNat ≤ r.2)

/-- A character is in a table when its code point is in one of the ranges. -/
theorem Table.has_iff {t : Table} {c : Char} :
    t.has c = true ↔ ∃ r ∈ t, r.1 ≤ c.toNat ∧ c.toNat ≤ r.2 := by
  simp [Table.has]

end SpecDebugger.Text
