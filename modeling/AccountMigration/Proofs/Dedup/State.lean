import AccountMigration.Proofs.Dedup.Groups
import AccountMigration.Proofs.Dedup.Slots

/-!
# What a deduplication knows

At every point the state of a deduplication is determined by the records so far: slots stand
in the order of first appearance, the record of a slot is the one that is kept out of its
group, and the log has a conflict for each later record of a key.

* `conflictsOf`: the conflicts of records, each with the record that was kept until then.
* `keptRecords`: the record of each key that is kept.
* `Pass.after`: the state after records, said without taking them one by one.
* `Pass.step_after` is the step, `Pass.run_eq_after` the run.
* `deduplicate_eq`: the result of a deduplication that keeps one record of each key.
-/

namespace AccountMigration

/-- What each record brings behind the records before it. -/
def broughtBy
    {α : Type}
    (bring : List SourceRecord → SourceRecord → Option α)
    (records : List SourceRecord) : List α :=
  records.zipIdx.filterMap fun (r, i) => bring (records.take i) r

/-- The conflict that a record brings behind other records: with the one that is kept out of
the records of its key, where there are any. -/
def conflictAt
    (rules : DedupRules)
    (seen : List SourceRecord)
    (r : SourceRecord) : Option Conflict :=
  match r.key? rules.key with
  | none => none
  | some key =>
      (rules.strategy.kept? (recordsOf rules.key key seen)).map fun existing =>
        ⟨key, existing, r⟩

/-- The conflicts of records in order. -/
def conflictsOf
    (rules : DedupRules)
    (records : List SourceRecord) : List Conflict :=
  broughtBy (conflictAt rules) records

/-- The records that are kept, in the order in which their keys appear first. -/
def keptRecords
    (rules : DedupRules)
    (records : List SourceRecord) : List SourceRecord :=
  (distinctKeys rules.key records).filterMap fun key =>
    rules.strategy.kept? (recordsOf rules.key key records)

/-- The state of a deduplication after records. -/
def Pass.after
    (rules : DedupRules)
    (seen : List SourceRecord) : Pass where
  slots := (distinctKeys rules.key seen).zipIdx
  records := keptRecords rules seen
  conflicts := conflictsOf rules seen
  stats :=
    { total := seen.length
      unique := (distinctKeys rules.key seen).length
      duplicates := (conflictsOf rules seen).length
      skippedNoKey := seen.countP fun r => (r.key? rules.key).isNone }

section Step

variable {rules : DedupRules} {r : SourceRecord} {key : String}

/-- One more record brings its own behind what the others bring. -/
theorem broughtBy_concat
    {α : Type}
    (bring : List SourceRecord → SourceRecord → Option α)
    (seen : List SourceRecord)
    (r : SourceRecord) :
    broughtBy bring (seen ++ [r]) = broughtBy bring seen ++ (bring seen r).toList := by
  -- an earlier record has the same records in front of it as before
  have hseen : ∀ p ∈ seen.zipIdx,
      bring ((seen ++ [r]).take p.2) p.1 = bring (seen.take p.2) p.1 := by
    rintro ⟨a, i⟩ hp
    have hlt := List.snd_lt_of_mem_zipIdx hp
    rw [List.take_append_of_le_length (Nat.le_of_lt (by simpa using hlt))]
  rw [broughtBy, List.zipIdx_append, List.filterMap_append, List.filterMap_congr hseen]
  simp [broughtBy, List.filterMap_cons]
  cases bring seen r <;> rfl

theorem exists_kept?_of_mem
    {seen : List SourceRecord}
    (hmem : key ∈ distinctKeys rules.key seen) :
    ∃ e, rules.strategy.kept? (recordsOf rules.key key seen) = some e := by
  refine exists_kept? rules.strategy fun hnil => ?_
  exact recordsOf_eq_nil_iff.mp hnil hmem

theorem kept?_recordsOf_of_not_mem
    {seen : List SourceRecord}
    (hmem : key ∉ distinctKeys rules.key seen) :
    rules.strategy.kept? (recordsOf rules.key key seen) = none := by
  rw [recordsOf_eq_nil_iff.mpr hmem, kept?_nil]

theorem length_keptRecords
    (rules : DedupRules)
    (seen : List SourceRecord) :
    (keptRecords rules seen).length = (distinctKeys rules.key seen).length :=
  length_filterMap_of_total fun _ => exists_kept?_of_mem

theorem getElem?_keptRecords
    (rules : DedupRules)
    (seen : List SourceRecord)
    (i : Nat) :
    (keptRecords rules seen)[i]? =
      (distinctKeys rules.key seen)[i]?.bind fun key =>
        rules.strategy.kept? (recordsOf rules.key key seen) :=
  getElem?_filterMap_of_total (fun _ => exists_kept?_of_mem) i

/-- A kept record is one of the records and has the key of its slot. -/
theorem mem_keptRecords
    {seen : List SourceRecord}
    (hr : r ∈ keptRecords rules seen) :
    ∃ key ∈ distinctKeys rules.key seen,
      rules.strategy.kept? (recordsOf rules.key key seen) = some r ∧
        r ∈ seen ∧ r.key? rules.key = some key := by
  rw [keptRecords, List.mem_filterMap] at hr
  obtain ⟨key, hkey, hkept⟩ := hr
  exact ⟨key, hkey, hkept, mem_recordsOf_iff.mp (mem_of_kept? rules.strategy hkept)⟩

/-- What is asked of the kept records can be asked of their keys, when for each key the kept
record gives the answer. -/
theorem map_keptRecords
    {α : Type}
    (rules : DedupRules)
    (seen : List SourceRecord)
    {ask : SourceRecord → α}
    {answer : String → α}
    (hanswer : ∀ key e, rules.strategy.kept? (recordsOf rules.key key seen) = some e →
      ask e = answer key) :
    (keptRecords rules seen).map ask = (distinctKeys rules.key seen).map answer := by
  refine List.ext_getElem? fun i => ?_
  rw [List.getElem?_map, List.getElem?_map, getElem?_keptRecords]
  cases hi : (distinctKeys rules.key seen)[i]? with
  | none =>
      rfl
  | some key =>
      obtain ⟨e, he⟩ := exists_kept?_of_mem (List.mem_of_getElem? hi)
      rw [Option.bind_some, he, Option.map_some, Option.map_some, hanswer key e he]

/-- Each key has one kept record, in the order in which the keys appear first. -/
theorem map_key?_keptRecords
    (rules : DedupRules)
    (seen : List SourceRecord) :
    (keptRecords rules seen).map (·.key? rules.key) =
      (distinctKeys rules.key seen).map some := by
  refine map_keptRecords rules seen fun key e he => ?_
  exact (mem_recordsOf_iff.mp (mem_of_kept? rules.strategy he)).2

theorem keptRecords_concat_of_none
    (hkey : r.key? rules.key = none)
    (seen : List SourceRecord) :
    keptRecords rules (seen ++ [r]) = keptRecords rules seen := by
  rw [keptRecords, distinctKeys_concat_of_none hkey]
  refine List.filterMap_congr fun k _ => ?_
  rw [recordsOf_concat_of_ne (by rw [hkey]; simp)]

theorem conflictsOf_concat_of_none
    (hkey : r.key? rules.key = none)
    (seen : List SourceRecord) :
    conflictsOf rules (seen ++ [r]) = conflictsOf rules seen := by
  simp [conflictsOf, broughtBy_concat, conflictAt, hkey]

theorem kept?_recordsOf_concat_of_ne
    (hkey : r.key? rules.key = some key)
    {other : String}
    (hne : other ≠ key)
    (seen : List SourceRecord) :
    rules.strategy.kept? (recordsOf rules.key other (seen ++ [r])) =
      rules.strategy.kept? (recordsOf rules.key other seen) := by
  rw [recordsOf_concat_of_ne]
  rw [hkey]
  rintro ⟨⟩
  exact hne rfl

/-- The first record of a key is kept behind all others. -/
theorem keptRecords_concat_of_not_mem
    (hkey : r.key? rules.key = some key)
    {seen : List SourceRecord}
    (hmem : key ∉ distinctKeys rules.key seen) :
    keptRecords rules (seen ++ [r]) = keptRecords rules seen ++ [r] := by
  have hold : ∀ k ∈ distinctKeys rules.key seen,
      rules.strategy.kept? (recordsOf rules.key k (seen ++ [r])) =
        rules.strategy.kept? (recordsOf rules.key k seen) := by
    intro k hk
    exact kept?_recordsOf_concat_of_ne hkey (fun heq => hmem (heq ▸ hk)) seen
  have hnew : rules.strategy.kept? (recordsOf rules.key key (seen ++ [r])) = some r := by
    rw [recordsOf_concat_self hkey, recordsOf_eq_nil_iff.mpr hmem]
    exact kept?_singleton rules.strategy r
  rw [keptRecords, distinctKeys_concat_of_not_mem hkey hmem, List.filterMap_append,
    List.filterMap_congr hold]
  simp [keptRecords, hnew]

theorem conflictsOf_concat_of_not_mem
    (hkey : r.key? rules.key = some key)
    {seen : List SourceRecord}
    (hmem : key ∉ distinctKeys rules.key seen) :
    conflictsOf rules (seen ++ [r]) = conflictsOf rules seen := by
  have hnone := kept?_recordsOf_of_not_mem hmem
  simp [conflictsOf, broughtBy_concat, conflictAt, hkey, hnone]

/-- A later record of a key is in conflict with the one that is kept until then. -/
theorem conflictsOf_concat_of_kept
    (hkey : r.key? rules.key = some key)
    {seen : List SourceRecord}
    {existing : SourceRecord}
    (hkept : rules.strategy.kept? (recordsOf rules.key key seen) = some existing) :
    conflictsOf rules (seen ++ [r]) =
      conflictsOf rules seen ++ [⟨key, existing, r⟩] := by
  simp [conflictsOf, broughtBy_concat, conflictAt, hkey, hkept]

/-- A later record of a key takes over the slot, or leaves it as it is. -/
theorem keptRecords_concat_of_slot
    (hkey : r.key? rules.key = some key)
    {seen : List SourceRecord}
    {slot : Nat}
    {existing : SourceRecord}
    (hslot : (distinctKeys rules.key seen)[slot]? = some key)
    (hkept : rules.strategy.kept? (recordsOf rules.key key seen) = some existing) :
    keptRecords rules (seen ++ [r]) =
      (keptRecords rules seen).set slot
        (if rules.strategy.replaces existing r then r else existing) := by
  have hnew : rules.strategy.kept? (recordsOf rules.key key (seen ++ [r])) =
      some (if rules.strategy.replaces existing r then r else existing) := by
    rw [recordsOf_concat_self hkey]
    exact kept?_concat rules.strategy hkept r
  rw [keptRecords, distinctKeys_concat_of_mem hkey (List.mem_of_getElem? hslot)]
  exact filterMap_eq_set (nodup_distinctKeys rules.key seen)
    (fun _ => exists_kept?_of_mem) hslot
    (fun k _ hk => kept?_recordsOf_concat_of_ne hkey hk seen) hnew

theorem getElem?_keptRecords_of_slot
    {seen : List SourceRecord}
    {slot : Nat}
    (hslot : (distinctKeys rules.key seen)[slot]? = some key) :
    (keptRecords rules seen)[slot]? =
      rules.strategy.kept? (recordsOf rules.key key seen) := by
  rw [getElem?_keptRecords, hslot, Option.bind_some]

theorem Pass.after_concat_of_none
    (hkey : r.key? rules.key = none)
    (seen : List SourceRecord) :
    Pass.after rules (seen ++ [r]) = (Pass.after rules seen).skip := by
  simp [Pass.after, Pass.skip, keptRecords_concat_of_none hkey,
    conflictsOf_concat_of_none hkey, distinctKeys_concat_of_none hkey,
    List.countP_append, hkey]

/-- The first record of a key gets a slot behind all others. -/
theorem Pass.after_concat_of_not_mem
    (hkey : r.key? rules.key = some key)
    {seen : List SourceRecord}
    (hmem : key ∉ distinctKeys rules.key seen) :
    Pass.after rules (seen ++ [r]) = (Pass.after rules seen).enter key r := by
  simp [Pass.after, Pass.enter, keptRecords_concat_of_not_mem hkey hmem,
    conflictsOf_concat_of_not_mem hkey hmem, distinctKeys_concat_of_not_mem hkey hmem,
    List.zipIdx_append, length_keptRecords, List.countP_append, hkey]

/-- A later record of a key meets the one in the slot. -/
theorem Pass.after_concat_of_slot
    (hkey : r.key? rules.key = some key)
    {seen : List SourceRecord}
    {slot : Nat}
    {existing : SourceRecord}
    (hslot : (distinctKeys rules.key seen)[slot]? = some key)
    (hkept : rules.strategy.kept? (recordsOf rules.key key seen) = some existing) :
    Pass.after rules (seen ++ [r]) =
      (Pass.after rules seen).collide key slot existing r
        (rules.strategy.replaces existing r) := by
  have hrecords : keptRecords rules (seen ++ [r]) =
      if rules.strategy.replaces existing r then (keptRecords rules seen).set slot r
      else keptRecords rules seen := by
    rw [keptRecords_concat_of_slot hkey hslot hkept]
    split
    · rfl
    · obtain ⟨hlt, rfl⟩ :=
        List.getElem?_eq_some_iff.mp ((getElem?_keptRecords_of_slot hslot).trans hkept)
      exact List.set_getElem_self hlt
  simp [Pass.after, Pass.collide, hrecords, conflictsOf_concat_of_kept hkey hkept,
    distinctKeys_concat_of_mem hkey (List.mem_of_getElem? hslot), List.countP_append, hkey]

/-- One record leads from the state after records to the state after one more, unless its key
is there already and that is an error. -/
theorem Pass.step_after
    {seen : List SourceRecord}
    (hallowed : rules.strategy ≠ .error ∨
      ∀ key, r.key? rules.key = some key → key ∉ distinctKeys rules.key seen) :
    (Pass.after rules seen).step rules r = .ok (Pass.after rules (seen ++ [r])) := by
  unfold Pass.step
  cases hkey : r.key? rules.key with
  | none =>
      rw [Pass.after_concat_of_none hkey]
  | some key =>
      by_cases hmem : key ∈ distinctKeys rules.key seen
      · obtain ⟨slot, hslot⟩ := List.mem_iff_getElem?.mp hmem
        obtain ⟨existing, hkept⟩ := exists_kept?_of_mem hmem
        have hlookup : (Pass.after rules seen).slots.lookup key = some slot :=
          lookup_zipIdx (nodup_distinctKeys rules.key seen) hslot
        have hplace : (Pass.after rules seen).records[slot]? = some existing :=
          (getElem?_keptRecords_of_slot hslot).trans hkept
        have hstrategy : rules.strategy ≠ .error :=
          hallowed.resolve_right fun h => h key hkey hmem
        rw [Pass.after_concat_of_slot hkey hslot hkept]
        simp only [hlookup, hplace]
        cases hs : rules.strategy with
        | error => exact absurd hs hstrategy
        | none => rfl
        | keepFirst => rfl
        | keepLatest => rfl
      · have hlookup : (Pass.after rules seen).slots.lookup key = none :=
          lookup_zipIdx_eq_none hmem
        rw [Pass.after_concat_of_not_mem hkey hmem]
        simp only [hlookup]

/-- A pass over records ends in the state after all of them. -/
theorem Pass.run_eq_after
    (hstrategy : rules.strategy ≠ .error)
    (records : List SourceRecord) :
    Pass.run rules {} records = .ok (Pass.after rules records) := by
  induction records using List.reverseRecOn with
  | nil =>
      rfl
  | append_singleton seen r ih =>
      rw [Pass.run_append, ih]
      simp only [Except.bind, Pass.run_cons, Pass.step_after (Or.inl hstrategy), Pass.run_nil]

/-- Every record is counted once: as the first of its key, as a later one, or as one without
a key. -/
theorem Pass.stats_balance
    (rules : DedupRules)
    (seen : List SourceRecord) :
    (Pass.after rules seen).stats.unique + (Pass.after rules seen).stats.duplicates +
        (Pass.after rules seen).stats.skippedNoKey =
      (Pass.after rules seen).stats.total := by
  induction seen using arrival_induction rules.key with
  | nil =>
      rfl
  | keyless seen r hkey ih =>
      rw [Pass.after_concat_of_none hkey]
      simp only [Pass.skip]
      omega
  | first seen r key hkey hmem ih =>
      rw [Pass.after_concat_of_not_mem hkey hmem]
      simp only [Pass.enter]
      omega
  | later seen r key hkey hmem ih =>
      obtain ⟨slot, hslot⟩ := List.mem_iff_getElem?.mp hmem
      obtain ⟨existing, hkept⟩ := exists_kept?_of_mem hmem
      rw [Pass.after_concat_of_slot hkey hslot hkept]
      simp only [Pass.collide]
      omega

/-- A deduplication that keeps one record of each key comes to its end, with the kept records
in the order in which their keys appear first. -/
theorem deduplicate_eq
    (hstrategy : rules.strategy = .keepFirst ∨ rules.strategy = .keepLatest)
    (records : List SourceRecord) :
    deduplicate rules records =
      .ok ⟨keptRecords rules records, conflictsOf rules records,
        (Pass.after rules records).stats⟩ := by
  have hrun : Pass.run rules {} records = .ok (Pass.after rules records) := by
    refine Pass.run_eq_after ?_ records
    rcases hstrategy with h | h <;> simp [h]
  rcases hstrategy with h | h <;>
    simp [deduplicate, h, hrun, Pass.after]

end Step

end AccountMigration
