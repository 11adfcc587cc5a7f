import AccountMigration.Error

/-!
# Faults

Places where a run would break down instead of ending with a report or an error.  Each of
them is a bound that the run relies on.

* `grantPermits`: requests under way are limited by permits, and only up to `permitLimit`
  permits can be granted.
* `Stop`: the two ways in which a run ends without a report.
-/

namespace AccountMigration

/-- A bound that does not hold. -/
inductive Fault where
  /-- More permits were to be granted than can be counted. -/
  | tooManyPermits (permits : Nat)
  /-- Records were to be cut into batches of no records. -/
  | emptyBatches
  /-- A key points to a slot that does not exist. -/
  | slotOutOfRange (slot : Nat)
  /-- A finished batch belongs to no batch of the run. -/
  | batchOutOfRange (index : Nat)
  /-- A finished lookup belongs to no user of the sample. -/
  | lookupOutOfRange (index : Nat)
  /-- More users were to be taken from the sample than it has. -/
  | sampleOutOfRange (size : Nat)
  /-- The service broke down while it was asked for a count. -/
  | countCrashed
  /-- A counter was to grow beyond its word, in a build that checks sums. -/
  | countersOverflowed
  deriving DecidableEq

/-- A run ends without a report: with an error, or because it broke down. -/
inductive Stop where
  | error (cause : MigrationError)
  | fault (cause : Fault)
  deriving DecidableEq

/-- The most permits that can be granted. -/
def permitLimit : Nat :=
  Nat.pow 2 61 - 1

/-- Grant one permit to each worker. -/
def grantPermits
    (workers : Nat) : Except Fault Unit :=
  if workers ≤ permitLimit then .ok () else .error (.tooManyPermits workers)

theorem grantPermits_eq_ok_iff
    (workers : Nat) :
    grantPermits workers = .ok () ↔ workers ≤ permitLimit := by
  unfold grantPermits
  split <;> simp [*]

theorem grantPermits_max_of_lt
    {workers : Nat}
    (hworkers : permitLimit < workers) :
    grantPermits (max workers 1) = .error (.tooManyPermits workers) := by
  have hone : 1 ≤ permitLimit := by decide
  rw [Nat.max_eq_left (by omega), grantPermits, if_neg (Nat.not_le.mpr hworkers)]

end AccountMigration
