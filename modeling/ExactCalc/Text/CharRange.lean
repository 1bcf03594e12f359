/-!
# Ranges of characters

Unicode properties are tables of ranges of code points, both ends included.
-/

namespace ExactCalc.Text

structure CharRange where
  first : Nat
  last : Nat

namespace CharRange

def contains (range : CharRange) (c : Char) : Bool :=
  range.first ≤ c.toNat && c.toNat ≤ range.last

/-- Some range of the table holds the character. -/
def anyContains (table : List CharRange) (c : Char) : Bool :=
  table.any (contains · c)

theorem anyContains_iff (table : List CharRange) (c : Char) :
    anyContains table c = true ↔
      ∃ range ∈ table, range.first ≤ c.toNat ∧ c.toNat ≤ range.last := by
  simp [anyContains, contains]

end CharRange

end ExactCalc.Text
