import AccountMigration.Proofs.Dedup.Conservation
import AccountMigration.Proofs.Dedup.Distinct

/-!
# Strategies compared

Keeping the first record of each key and keeping the latest one differ in the records that win,
and in nothing else.  What comes out of a deduplication has different keys, so that no strategy
changes it any more.

* `stats_after_eq`: records are counted alike by all strategies.
* `head?_recordsOf_of_mem_conflictsOf`: when first records are kept, every conflict is with the
  first record of its key.
* `keysOf_keptRecords`: the kept records have the different keys of all records.
* `deduplicate_keptRecords`: kept records are kept again, by all strategies.
* `strategies_differ_in_winners`: all of it for the outcomes.
-/

namespace AccountMigration

section Compared

variable {rules : DedupRules} {selector : DedupKey} {records : List SourceRecord}

/-- There is a conflict for each record that is not the first of its key, whatever the strategy. -/
theorem length_conflictsOf
    (rules : DedupRules)
    (records : List SourceRecord) :
    (conflictsOf rules records).length = (repeatsOf rules.key records).length := by
  rw [← map_conflictsOf, List.length_map]

/-- Records are counted alike by all strategies. -/
theorem stats_after_eq
    (selector : DedupKey)
    (strategy other : DedupStrategy)
    (records : List SourceRecord) :
    (Pass.after ⟨selector, strategy⟩ records).stats =
      (Pass.after ⟨selector, other⟩ records).stats := by
  simp only [Pass.after, length_conflictsOf]

/-- When first records are kept, every conflict is with the first record of its key. -/
theorem head?_recordsOf_of_mem_conflictsOf
    (hstrategy : rules.strategy = .keepFirst)
    {conflict : Conflict}
    (hconflict : conflict ∈ conflictsOf rules records) :
    (recordsOf rules.key conflict.key records).head? = some conflict.existing := by
  rw [conflictsOf, broughtBy, List.mem_filterMap] at hconflict
  obtain ⟨⟨r, i⟩, -, hbrought⟩ := hconflict
  simp only [conflictAt, hstrategy, DedupStrategy.kept?] at hbrought
  cases hkey : r.key? rules.key with
  | none =>
      rw [hkey] at hbrought
      cases hbrought
  | some key =>
      simp only [hkey, Option.map_eq_some_iff] at hbrought
      obtain ⟨existing, hfirst, rfl⟩ := hbrought
      -- the first of the records in front of the conflict is the first of all
      rw [← List.take_append_drop i records, recordsOf, List.filter_append, List.head?_append]
      rw [recordsOf] at hfirst
      rw [hfirst, Option.some_or]

theorem keysOf_keptRecords
    (rules : DedupRules)
    (records : List SourceRecord) :
    keysOf rules.key (keptRecords rules records) = distinctKeys rules.key records := by
  have hkeys : (keptRecords rules records).filterMap (·.key? rules.key) =
      ((keptRecords rules records).map (·.key? rules.key)).filterMap id := by
    rw [List.filterMap_map, Function.id_comp]
  rw [keysOf, hkeys, map_key?_keptRecords, List.filterMap_map]
  exact List.filterMap_some

theorem isSome_key?_of_mem_keptRecords
    {r : SourceRecord}
    (hr : r ∈ keptRecords rules records) :
    (r.key? rules.key).isSome := by
  obtain ⟨key, -, -, -, hkey⟩ := mem_keptRecords hr
  rw [hkey, Option.isSome_some]

/-- Kept records are kept again, each where it stands. -/
theorem keyedOutcome_keptRecords
    (rules : DedupRules)
    (records : List SourceRecord) :
    keyedOutcome rules.key (keptRecords rules records) =
      passThrough (keptRecords rules records) := by
  have hkeyed : (keptRecords rules records).filter (fun r => (r.key? rules.key).isSome) =
      keptRecords rules records :=
    List.filter_eq_self.mpr fun r hr => isSome_key?_of_mem_keptRecords hr
  have hskipped : (keptRecords rules records).countP (fun r => (r.key? rules.key).isNone) = 0 := by
    rw [List.countP_eq_zero]
    intro r hr
    rw [Bool.not_eq_true, Option.isNone_eq_false_iff]
    exact isSome_key?_of_mem_keptRecords hr
  simp only [keyedOutcome, passThrough, hkeyed, hskipped, keysOf_keptRecords, length_keptRecords]

/-- Kept records have different keys, so that every strategy keeps them all. -/
theorem deduplicate_keptRecords
    (rules : DedupRules)
    {strategy : DedupStrategy}
    (hkeyed : strategy ≠ .none)
    (records : List SourceRecord) :
    deduplicate ⟨rules.key, strategy⟩ (keptRecords rules records) =
      .ok (passThrough (keptRecords rules records)) := by
  have hnodup : (keysOf rules.key (keptRecords rules records)).Nodup := by
    rw [keysOf_keptRecords]
    exact nodup_distinctKeys rules.key records
  rw [← keyedOutcome_keptRecords]
  exact deduplicate_of_nodup hkeyed hnodup

end Compared

/-- Keeping the first record of each key and keeping the latest one count alike, give each key the
same slot, and log the same records as duplicates of the same keys.  When first records are kept,
they are the ones in the slots and the ones in all conflicts.  Whatever a strategy that compares
keys has left, all such strategies leave as it is, without a conflict. -/
theorem strategies_differ_in_winners
    (selector : DedupKey)
    (records : List SourceRecord) :
    ∃ first latest,
      deduplicate ⟨selector, .keepFirst⟩ records = .ok first ∧
      deduplicate ⟨selector, .keepLatest⟩ records = .ok latest ∧
      first.stats = latest.stats ∧
      first.records.map (·.key? selector) = latest.records.map (·.key? selector) ∧
      first.conflicts.map (fun c => (c.key, c.duplicate)) =
        latest.conflicts.map (fun c => (c.key, c.duplicate)) ∧
      (∀ c ∈ first.conflicts, (recordsOf selector c.key records).head? = some c.existing) ∧
      (∀ r ∈ first.records, ∃ key, r.key? selector = some key ∧
        (recordsOf selector key records).head? = some r) ∧
      ∀ strategy outcome, strategy ≠ .none →
        deduplicate ⟨selector, strategy⟩ records = .ok outcome →
        ∀ again, again ≠ .none →
          deduplicate ⟨selector, again⟩ outcome.records =
            .ok ⟨outcome.records, [],
              { total := outcome.records.length, unique := outcome.records.length }⟩ := by
  refine ⟨_, _, deduplicate_eq (Or.inl rfl) records, deduplicate_eq (Or.inr rfl) records,
    stats_after_eq selector .keepFirst .keepLatest records, ?_, ?_, ?_, ?_, ?_⟩
  · exact (map_key?_keptRecords ⟨selector, .keepFirst⟩ records).trans
      (map_key?_keptRecords ⟨selector, .keepLatest⟩ records).symm
  · exact (map_conflictsOf ⟨selector, .keepFirst⟩ records).trans
      (map_conflictsOf ⟨selector, .keepLatest⟩ records).symm
  · intro c hc
    exact head?_recordsOf_of_mem_conflictsOf rfl hc
  · intro r hr
    obtain ⟨key, -, hkept, -, hkey⟩ := mem_keptRecords hr
    exact ⟨key, hkey, hkept⟩
  · intro strategy outcome hkeyed hok again hagain
    rw [deduplicate_keyed hkeyed hok]
    exact deduplicate_keptRecords ⟨selector, strategy⟩ hagain records

end AccountMigration
