import AccountMigration.Record

/-!
# Samples of users

A sample is drawn from the records without repetition.  Which records are drawn is left to
chance, so a `Draw` gives the positions: for every number of records and every size, that
many different positions, or all of them when there are fewer records.
-/

namespace AccountMigration

/-- The most users that are looked up in one verification. -/
def sampleLimit : Nat :=
  100

/-- The positions that are drawn from a number of records. -/
structure Draw where
  picks : (population size : Nat) → List Nat
  length_picks : ∀ population size, (picks population size).length = min size population
  nodup_picks : ∀ population size, (picks population size).Nodup
  lt_of_mem_picks : ∀ population size, ∀ i ∈ picks population size, i < population

namespace Draw

/-- The draw that takes the records in front. -/
def front : Draw where
  picks := fun population size => List.range (min size population)
  length_picks := by
    intro population size
    simp
  nodup_picks := by
    intro population size
    exact List.nodup_range
  lt_of_mem_picks := by
    intro population size i hi
    have := List.mem_range.mp hi
    omega

/-- The users of the records at the drawn positions. -/
def sample
    (draw : Draw)
    (records : List SourceRecord)
    (size : Nat) : List SampledUser :=
  (draw.picks records.length (min size sampleLimit)).filterMap fun i =>
    records[i]?.map SampledUser.ofRecord

end Draw

end AccountMigration
