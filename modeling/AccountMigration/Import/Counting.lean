import AccountMigration.Fault
import AccountMigration.Import.Stats

/-!
# What counters make of a sum

Counters are words of 64 bits.  What becomes of a sum that does not fit into a word depends on the
build: a release build counts on from zero, and a build that checks its sums breaks down there.  A
third way of counting, where numbers have no bound, is the ideal that both of them follow as long as
every sum fits.

* `Counting`: the three ways of counting.
* `ImportStats.Fits` and `ImportStats.wrapped`: counters that are words, and counters cut down to
  words.
* `Counting.settle`: what counters make of a sum.

The total is not cut down.  It is the number of records that were submitted, each of which was in
memory, while the other counters take over any numbers that the service replies with.
-/

namespace AccountMigration

/-- How a build counts. -/
inductive Counting where
  /-- Counters have no bound. -/
  | unbounded
  /-- A counter that is full counts on from zero. -/
  | wrapping
  /-- A counter that is to grow beyond its word is a fault. -/
  | checked
  deriving DecidableEq

namespace ImportStats

/-- All counters are words. -/
structure Fits
    (s : ImportStats) : Prop where
  created : s.created ≤ Numeral.maxWord
  existing : s.existing ≤ Numeral.maxWord
  skipped : s.skipped ≤ Numeral.maxWord
  updated : s.updated ≤ Numeral.maxWord
  errors : s.errors ≤ Numeral.maxWord

instance
    (s : ImportStats) :
    Decidable s.Fits :=
  decidable_of_iff
    (s.created ≤ Numeral.maxWord ∧ s.existing ≤ Numeral.maxWord ∧ s.skipped ≤ Numeral.maxWord ∧
      s.updated ≤ Numeral.maxWord ∧ s.errors ≤ Numeral.maxWord)
    ⟨fun ⟨hc, he, hs, hu, hr⟩ => ⟨hc, he, hs, hu, hr⟩,
      fun h => ⟨h.created, h.existing, h.skipped, h.updated, h.errors⟩⟩

/-- The counters, each cut down to a word. -/
def wrapped
    (s : ImportStats) : ImportStats where
  total := s.total
  created := s.created % (Numeral.maxWord + 1)
  existing := s.existing % (Numeral.maxWord + 1)
  skipped := s.skipped % (Numeral.maxWord + 1)
  updated := s.updated % (Numeral.maxWord + 1)
  errors := s.errors % (Numeral.maxWord + 1)

end ImportStats

namespace Counting

/-- The counters that are kept of a sum. -/
def kept : Counting → ImportStats → ImportStats
  | .unbounded, sum => sum
  | .wrapping, sum => sum.wrapped
  | .checked, sum => sum

/-- A sum is too large for counters that are checked. -/
def Overflows
    (counting : Counting)
    (sum : ImportStats) : Prop :=
  counting = .checked ∧ ¬ sum.Fits

instance
    (counting : Counting)
    (sum : ImportStats) :
    Decidable (counting.Overflows sum) :=
  inferInstanceAs (Decidable (_ ∧ _))

/-- What counters make of a sum. -/
def settle
    (counting : Counting)
    (sum : ImportStats) : Except Fault ImportStats :=
  if counting.Overflows sum then .error .countersOverflowed else .ok (counting.kept sum)

end Counting

end AccountMigration
