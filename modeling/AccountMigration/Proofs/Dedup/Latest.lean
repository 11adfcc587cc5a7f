import AccountMigration.Proofs.Dedup.State

/-!
# Keeping the latest record of each key

A deduplication that keeps the latest record of each key takes records one by one and lets a
record take over a slot.  What comes out depends on the groups of records only.

* `distinctKeys_perm` and `recordsOf_perm`: records in another order have the same keys and
  the same groups, up to order.
* `stats_after_perm`: they are counted alike, for any rules.
* `datesOf_perm`: the time that is kept for each key stays the same.
* `deduplicate_keepLatest`: the output, record by record, and what does not change when the
  records come in another order.
-/

namespace AccountMigration

/-- Each kept record as its key and its time. -/
def datesOf
    (selector : DedupKey)
    (records : List SourceRecord) : List (Option String × Option Timestamp) :=
  records.map fun r => (r.key? selector, r.createdAt)

section Reordered

variable {records shuffled : List SourceRecord}

/-- Records in another order have the same keys, up to order. -/
theorem distinctKeys_perm
    (selector : DedupKey)
    (hperm : shuffled.Perm records) :
    (distinctKeys selector shuffled).Perm (distinctKeys selector records) := by
  refine (List.perm_ext_iff_of_nodup (nodup_distinctKeys selector shuffled)
    (nodup_distinctKeys selector records)).mpr fun key => ?_
  rw [mem_distinctKeys_iff, mem_distinctKeys_iff]
  constructor
  · rintro ⟨r, hr, hkey⟩
    exact ⟨r, hperm.mem_iff.mp hr, hkey⟩
  · rintro ⟨r, hr, hkey⟩
    exact ⟨r, hperm.mem_iff.mpr hr, hkey⟩

theorem recordsOf_perm
    (selector : DedupKey)
    (key : String)
    (hperm : shuffled.Perm records) :
    (recordsOf selector key shuffled).Perm (recordsOf selector key records) :=
  hperm.filter _

/-- Records in another order are counted alike. -/
theorem stats_after_perm
    (rules : DedupRules)
    (hperm : shuffled.Perm records) :
    (Pass.after rules shuffled).stats = (Pass.after rules records).stats := by
  have htotal : (Pass.after rules shuffled).stats.total =
      (Pass.after rules records).stats.total := hperm.length_eq
  have hunique : (Pass.after rules shuffled).stats.unique =
      (Pass.after rules records).stats.unique :=
    (distinctKeys_perm rules.key hperm).length_eq
  have hskipped : (Pass.after rules shuffled).stats.skippedNoKey =
      (Pass.after rules records).stats.skippedNoKey := hperm.countP_eq _
  -- the duplicates are what is left, so the balance gives them
  have hshuffled := Pass.stats_balance rules shuffled
  have hrecords := Pass.stats_balance rules records
  generalize (Pass.after rules shuffled).stats = s at *
  generalize (Pass.after rules records).stats = t at *
  cases s
  cases t
  simp only [DedupStats.mk.injEq] at *
  omega

theorem max?_createdAt_perm
    (hperm : shuffled.Perm records) :
    (shuffled.filterMap (·.createdAt)).max? = (records.filterMap (·.createdAt)).max? :=
  Timestamp.max?_perm (hperm.filterMap _)

/-- The kept records have, key by key, the latest of all times of the key. -/
theorem datesOf_keptRecords
    (selector : DedupKey)
    (records : List SourceRecord) :
    datesOf selector (keptRecords ⟨selector, .keepLatest⟩ records) =
      (distinctKeys selector records).map fun key =>
        (some key, ((recordsOf selector key records).filterMap (·.createdAt)).max?) := by
  refine map_keptRecords ⟨selector, .keepLatest⟩ records fun key e he => ?_
  have hmem := mem_recordsOf_iff.mp (mem_of_kept? .keepLatest he)
  rw [hmem.2, createdAt_of_latest? he]

/-- For each key the same time is kept when the records come in another order. -/
theorem datesOf_perm
    (selector : DedupKey)
    (hperm : shuffled.Perm records) :
    (datesOf selector (keptRecords ⟨selector, .keepLatest⟩ shuffled)).Perm
      (datesOf selector (keptRecords ⟨selector, .keepLatest⟩ records)) := by
  have htimes : ∀ key : String,
      ((recordsOf selector key shuffled).filterMap (·.createdAt)).max? =
        ((recordsOf selector key records).filterMap (·.createdAt)).max? := by
    intro key
    exact max?_createdAt_perm (recordsOf_perm selector key hperm)
  rw [datesOf_keptRecords, datesOf_keptRecords]
  simp only [htimes]
  exact (distinctKeys_perm selector hperm).map _

end Reordered

/-- A deduplication that keeps the latest has one record for each key, in the order in which
the keys appear first.  It is the first record of the key with the latest time, or the first
of all when none has a time.  Records without a key do not appear.  Neither the keys nor the
counts nor the kept times depend on the order of the records. -/
theorem deduplicate_keepLatest
    (selector : DedupKey)
    (records : List SourceRecord) :
    ∃ outcome,
      deduplicate ⟨selector, .keepLatest⟩ records = .ok outcome ∧
      outcome.records.map (·.key? selector) = (distinctKeys selector records).map some ∧
      (∀ (i : Nat) (key : String), (distinctKeys selector records)[i]? = some key →
        outcome.records[i]? = latest? (recordsOf selector key records)) ∧
      (∀ r ∈ outcome.records, r ∈ records ∧ r.key? selector ≠ none) ∧
      ∀ shuffled, shuffled.Perm records →
        ∃ other,
          deduplicate ⟨selector, .keepLatest⟩ shuffled = .ok other ∧
          other.stats = outcome.stats ∧
          (datesOf selector other.records).Perm (datesOf selector outcome.records) := by
  have hends : ∀ rs, deduplicate ⟨selector, .keepLatest⟩ rs = .ok
      ⟨keptRecords ⟨selector, .keepLatest⟩ rs, conflictsOf ⟨selector, .keepLatest⟩ rs,
        (Pass.after ⟨selector, .keepLatest⟩ rs).stats⟩ := deduplicate_eq (Or.inr rfl)
  refine ⟨_, hends records, map_key?_keptRecords ⟨selector, .keepLatest⟩ records, ?_, ?_, ?_⟩
  · intro i key hi
    exact getElem?_keptRecords_of_slot hi
  · intro r hr
    obtain ⟨key, -, -, hmem, hkey⟩ := mem_keptRecords hr
    exact ⟨hmem, by rw [hkey]; simp⟩
  · intro shuffled hperm
    exact ⟨_, hends shuffled, stats_after_perm _ hperm, datesOf_perm selector hperm⟩

end AccountMigration
