/-!
# Ranges of code points

A property of characters is given as a short list of closed ranges of code points.
`CodeRange.covers` decides whether a character falls into one of them.
-/

namespace AccountMigration

/-- The code points from `first` to `last`, both included. -/
structure CodeRange where
  first : Nat
  last : Nat

namespace CodeRange

/-- Whether a code point lies in the range. -/
def contains
    (r : CodeRange)
    (code : Nat) : Bool :=
  r.first ≤ code && code ≤ r.last

/-- Whether a character lies in one of the ranges. -/
def covers
    (ranges : List CodeRange)
    (c : Char) : Bool :=
  ranges.any fun r => r.contains c.toNat

@[simp] theorem covers_nil
    (c : Char) :
    covers [] c = false := by
  rfl

@[simp] theorem covers_cons
    (r : CodeRange)
    (ranges : List CodeRange)
    (c : Char) :
    covers (r :: ranges) c = (r.contains c.toNat || covers ranges c) := by
  rfl

theorem contains_iff
    (r : CodeRange)
    (code : Nat) :
    r.contains code = true ↔ r.first ≤ code ∧ code ≤ r.last := by
  simp [contains]

end CodeRange

end AccountMigration
