import AccountMigration.Proofs.Dedup.Refusal

/-!
# Records of different keys

When no key comes twice, there is nothing to decide: every record with a key is kept where it
stands, there is no conflict, and all strategies that compare keys come to the same outcome.

* `distinct_induction`: a record has no key or is the first of its key.
* `distinctKeys_of_nodup`, `keptRecords_of_nodup` and `conflictsOf_of_nodup`: the parts of the
  outcome.
* `deduplicate_of_nodup`: the outcome, which does not mention the strategy.
-/

namespace AccountMigration

/-- The outcome for records of different keys: those with a key, as they stand. -/
def keyedOutcome
    (selector : DedupKey)
    (records : List SourceRecord) : DedupOutcome where
  records := records.filter fun r => (r.key? selector).isSome
  conflicts := []
  stats :=
    { total := records.length
      unique := (keysOf selector records).length
      duplicates := 0
      skippedNoKey := records.countP fun r => (r.key? selector).isNone }

section Different

variable {rules : DedupRules} {selector : DedupKey} {records : List SourceRecord}

/-- Records of different keys come one by one: each has no key or is the first of its key. -/
@[elab_as_elim]
theorem distinct_induction
    {motive : ∀ records, (keysOf selector records).Nodup → Prop}
    (nil : motive [] List.nodup_nil)
    (keyless : ∀ seen r hseen hboth, r.key? selector = none →
      motive seen hseen → motive (seen ++ [r]) hboth)
    (first : ∀ seen r key hseen hboth, r.key? selector = some key →
      key ∉ distinctKeys selector seen → motive seen hseen → motive (seen ++ [r]) hboth)
    (records : List SourceRecord)
    (hnodup : (keysOf selector records).Nodup) :
    motive records hnodup := by
  induction records using List.reverseRecOn with
  | nil =>
      exact nil
  | append_singleton seen r ih =>
      obtain ⟨hseen, hnew⟩ := nodup_keysOf_concat.mp hnodup
      cases hkey : r.key? selector with
      | none =>
          exact keyless seen r hseen hnodup hkey (ih hseen)
      | some key =>
          exact first seen r key hseen hnodup hkey (hnew key hkey) (ih hseen)

theorem distinctKeys_of_nodup
    (hnodup : (keysOf selector records).Nodup) :
    distinctKeys selector records = keysOf selector records := by
  induction records, hnodup using distinct_induction with
  | nil =>
      rfl
  | keyless seen r _ _ hkey ih =>
      rw [distinctKeys_concat_of_none hkey, keysOf_concat, hkey, ih]
      exact (List.append_nil _).symm
  | first seen r key _ _ hkey hmem ih =>
      rw [distinctKeys_concat_of_not_mem hkey hmem, keysOf_concat, hkey, ih]
      rfl

/-- Records of different keys are kept where they stand. -/
theorem keptRecords_of_nodup
    (hnodup : (keysOf rules.key records).Nodup) :
    keptRecords rules records = records.filter fun r => (r.key? rules.key).isSome := by
  induction records, hnodup using distinct_induction with
  | nil =>
      rfl
  | keyless seen r _ _ hkey ih =>
      simp [keptRecords_concat_of_none hkey, List.filter_append, hkey, ih]
  | first seen r key _ _ hkey hmem ih =>
      simp [keptRecords_concat_of_not_mem hkey hmem, List.filter_append, hkey, ih]

/-- Between records of different keys there is no conflict. -/
theorem conflictsOf_of_nodup
    (hnodup : (keysOf rules.key records).Nodup) :
    conflictsOf rules records = [] := by
  induction records, hnodup using distinct_induction with
  | nil =>
      rfl
  | keyless seen r _ _ hkey ih =>
      rw [conflictsOf_concat_of_none hkey, ih]
  | first seen r key _ _ hkey hmem ih =>
      rw [conflictsOf_concat_of_not_mem hkey hmem, ih]

/-- Records of different keys are deduplicated alike by all strategies that compare keys. -/
theorem deduplicate_of_nodup
    (hkeyed : rules.strategy ≠ .none)
    (hnodup : (keysOf rules.key records).Nodup) :
    deduplicate rules records = .ok (keyedOutcome rules.key records) := by
  rw [deduplicate_of_keyed hkeyed, Pass.run_of_nodup hnodup]
  simp only [Except.map, Pass.after, keyedOutcome, keptRecords_of_nodup hnodup,
    conflictsOf_of_nodup hnodup, distinctKeys_of_nodup hnodup, List.length_nil]

end Different

end AccountMigration
