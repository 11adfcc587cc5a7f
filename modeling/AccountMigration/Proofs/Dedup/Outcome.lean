import AccountMigration.Proofs.Dedup.Refusal

/-!
# The parts of an outcome

Whatever the strategy, the parts of an outcome agree with each other and with the records: the
counts are those of the records that are left and of the conflicts, and a conflict is between two
records of its key.

* `outcome_of_deduplicate`: the two forms of an outcome.
* `unique_of_deduplicate` and `duplicates_of_deduplicate`: what is counted.
* `repeatedKey_of_conflict`: between which records there is a conflict.
-/

namespace AccountMigration

variable {rules : DedupRules} {records : List SourceRecord} {outcome : DedupOutcome}

/-- Keys are not compared, or the outcome is the one that the groups of records determine. -/
theorem outcome_of_deduplicate
    (hok : deduplicate rules records = .ok outcome) :
    outcome = passThrough records ∨
      outcome = ⟨keptRecords rules records, conflictsOf rules records,
        (Pass.after rules records).stats⟩ := by
  by_cases hkeyed : rules.strategy = .none
  · left
    simp only [deduplicate, hkeyed] at hok
    exact (Except.ok.inj hok).symm
  · right
    exact deduplicate_keyed hkeyed hok

theorem unique_of_deduplicate
    (hok : deduplicate rules records = .ok outcome) :
    outcome.stats.unique = outcome.records.length := by
  rcases outcome_of_deduplicate hok with rfl | rfl
  · rfl
  · exact (length_keptRecords rules records).symm

theorem duplicates_of_deduplicate
    (hok : deduplicate rules records = .ok outcome) :
    outcome.conflicts.length = outcome.stats.duplicates := by
  rcases outcome_of_deduplicate hok with rfl | rfl
  · rfl
  · rfl

/-- A conflict is between a record and an earlier one of the same key. -/
theorem repeatedKey_of_mem_conflictsOf
    {conflict : Conflict}
    (hconflict : conflict ∈ conflictsOf rules records) :
    RepeatedKey rules.key records conflict.key conflict.existing conflict.duplicate := by
  rw [conflictsOf, broughtBy, List.mem_filterMap] at hconflict
  obtain ⟨⟨r, i⟩, hplace, hbrought⟩ := hconflict
  have hi : records[i]? = some r := List.mem_zipIdx_iff_getElem?.mp hplace
  obtain ⟨hlt, hr⟩ := List.getElem?_eq_some_iff.mp hi
  have hsplit : records = records.take i ++ r :: records.drop (i + 1) := by
    rw [← hr, ← List.drop_eq_getElem_cons hlt, List.take_append_drop]
  simp only [conflictAt] at hbrought
  cases hkey : r.key? rules.key with
  | none =>
      rw [hkey] at hbrought
      cases hbrought
  | some key =>
      simp only [hkey, Option.map_eq_some_iff] at hbrought
      obtain ⟨existing, hkept, rfl⟩ := hbrought
      rw [hsplit]
      exact repeatedKey_of_mem hkey (mem_of_kept? rules.strategy hkept)

theorem repeatedKey_of_conflict
    (hok : deduplicate rules records = .ok outcome)
    {conflict : Conflict}
    (hconflict : conflict ∈ outcome.conflicts) :
    RepeatedKey rules.key records conflict.key conflict.existing conflict.duplicate := by
  rcases outcome_of_deduplicate hok with rfl | rfl
  · exact absurd hconflict List.not_mem_nil
  · exact repeatedKey_of_mem_conflictsOf hconflict

end AccountMigration
