import AccountMigration.Proofs.Dedup.Conservation

/-!
# What more records add

A deduplication looks at records in order and never takes back what it has found, so that more
records behind the others only add to the outcome.  And records of different keys have nothing to
do with each other: what becomes of a key is decided by its own records.

* `Pass.step_cases`: what one record can do.
* `Pass.Extends`: a later state has the slots and the conflicts of an earlier one, and its counts
  are not smaller.
* `Pass.extends_step` is the step, `Pass.extends_run` the run; `Pass.records_run_of_keepFirst` is
  the same for the records when they are never replaced.
* `conflictsOf_recordsOf` and `recordsOf_keptRecords`: the conflicts and the kept record of a key
  are those of its own records.
* `deduplicate_append`: all of it for the outcomes.
-/

namespace AccountMigration

/-- No count of the first is larger than that of the second. -/
structure DedupStats.AtMost
    (s t : DedupStats) : Prop where
  total : s.total ≤ t.total
  unique : s.unique ≤ t.unique
  duplicates : s.duplicates ≤ t.duplicates
  skippedNoKey : s.skippedNoKey ≤ t.skippedNoKey

/-- The second state has the slots and the conflicts of the first one, and perhaps more. -/
structure Pass.Extends
    (p q : Pass) : Prop where
  slots : p.slots <+: q.slots
  conflicts : p.conflicts <+: q.conflicts
  stats : p.stats.AtMost q.stats

namespace Pass

section Step

variable {rules : DedupRules} {p q s : Pass} {r : SourceRecord}

/-- A record that is not refused is skipped, gets a slot, or meets the record in its slot. -/
theorem step_cases
    (hstep : p.step rules r = .ok q) :
    (r.key? rules.key = none ∧ q = p.skip) ∨
    (∃ key, r.key? rules.key = some key ∧ p.slots.lookup key = none ∧ q = p.enter key r) ∨
    (∃ key slot existing,
      r.key? rules.key = some key ∧
      p.slots.lookup key = some slot ∧
      p.records[slot]? = some existing ∧
      rules.strategy ≠ .error ∧
      q = p.collide key slot existing r (rules.strategy.replaces existing r)) := by
  unfold step at hstep
  cases hkey : r.key? rules.key with
  | none =>
      simp only [hkey, Except.ok.injEq] at hstep
      exact .inl ⟨rfl, hstep.symm⟩
  | some key =>
      simp only [hkey] at hstep
      cases hslot : p.slots.lookup key with
      | none =>
          simp only [hslot, Except.ok.injEq] at hstep
          exact .inr (.inl ⟨key, rfl, hslot, hstep.symm⟩)
      | some slot =>
          simp only [hslot] at hstep
          cases hexisting : p.records[slot]? with
          | none =>
              simp [hexisting] at hstep
          | some existing =>
              refine .inr (.inr ⟨key, slot, existing, rfl, hslot, hexisting, ?_⟩)
              simp only [hexisting] at hstep
              cases hstrategy : rules.strategy with
              | error =>
                  simp [hstrategy] at hstep
              | none | keepFirst | keepLatest =>
                  simp only [hstrategy, Except.ok.injEq] at hstep
                  exact ⟨by simp, hstep.symm⟩

theorem Extends.refl
    (p : Pass) :
    p.Extends p :=
  ⟨List.prefix_refl _, List.prefix_refl _, ⟨le_rfl, le_rfl, le_rfl, le_rfl⟩⟩

theorem Extends.trans
    (hpq : p.Extends q)
    (hqs : q.Extends s) :
    p.Extends s where
  slots := hpq.slots.trans hqs.slots
  conflicts := hpq.conflicts.trans hqs.conflicts
  stats :=
    { total := hpq.stats.total.trans hqs.stats.total
      unique := hpq.stats.unique.trans hqs.stats.unique
      duplicates := hpq.stats.duplicates.trans hqs.stats.duplicates
      skippedNoKey := hpq.stats.skippedNoKey.trans hqs.stats.skippedNoKey }

/-- A record takes back nothing that was known. -/
theorem extends_step
    (hstep : p.step rules r = .ok q) :
    p.Extends q := by
  rcases step_cases hstep with ⟨-, rfl⟩ | ⟨key, -, -, rfl⟩ | ⟨key, slot, existing, -, -, -, -, rfl⟩
  · exact ⟨List.prefix_refl _, List.prefix_refl _,
      ⟨Nat.le_succ _, le_rfl, le_rfl, Nat.le_succ _⟩⟩
  · exact ⟨List.prefix_append _ _, List.prefix_refl _,
      ⟨Nat.le_succ _, Nat.le_succ _, le_rfl, le_rfl⟩⟩
  · exact ⟨List.prefix_refl _, List.prefix_append _ _,
      ⟨Nat.le_succ _, le_rfl, Nat.le_succ _, le_rfl⟩⟩

/-- What every record keeps is kept by all of them. -/
theorem run_keeps
    (keeps : Pass → Prop)
    (hkeeps : ∀ p r q, keeps p → p.step rules r = .ok q → keeps q)
    {rs : List SourceRecord}
    (hp : keeps p)
    (hrun : p.run rules rs = .ok q) :
    keeps q := by
  induction rs generalizing p with
  | nil =>
      rw [run_nil, Except.ok.injEq] at hrun
      exact hrun ▸ hp
  | cons r rest ih =>
      rw [run_cons] at hrun
      cases hstep : p.step rules r with
      | error stop =>
          rw [hstep] at hrun
          cases hrun
      | ok next =>
          rw [hstep] at hrun
          exact ih (hkeeps p r next hp hstep) hrun

/-- Records take back nothing that was known. -/
theorem extends_run
    {rs : List SourceRecord}
    (hrun : p.run rules rs = .ok q) :
    p.Extends q :=
  run_keeps (p.Extends ·) (fun _ _ _ hextends hstep => hextends.trans (extends_step hstep))
    (Extends.refl p) hrun

/-- When first records are kept, a record leaves those in the slots as they are. -/
theorem records_step_of_keepFirst
    (hstrategy : rules.strategy = .keepFirst)
    (hstep : p.step rules r = .ok q) :
    p.records <+: q.records := by
  rcases step_cases hstep with ⟨-, rfl⟩ | ⟨key, -, -, rfl⟩ | ⟨key, slot, existing, -, -, -, -, rfl⟩
  · exact List.prefix_refl _
  · exact List.prefix_append _ _
  · simp [hstrategy, DedupStrategy.replaces, collide]

theorem records_run_of_keepFirst
    (hstrategy : rules.strategy = .keepFirst)
    {rs : List SourceRecord}
    (hrun : p.run rules rs = .ok q) :
    p.records <+: q.records :=
  run_keeps (p.records <+: ·.records)
    (fun _ _ _ hbefore hstep => hbefore.trans (records_step_of_keepFirst hstrategy hstep))
    (List.prefix_refl _) hrun

/-- From the state after some records, more records lead to the state after all of them. -/
theorem run_after
    (hstrategy : rules.strategy ≠ .error)
    (records more : List SourceRecord) :
    (after rules records).run rules more = .ok (after rules (records ++ more)) := by
  have hboth := run_eq_after hstrategy (records ++ more)
  rw [run_append, run_eq_after hstrategy records] at hboth
  exact hboth

end Step

end Pass

section OwnRecords

variable {rules : DedupRules} {selector : DedupKey} {key : String}

/-- The records of a key are all records of that key. -/
theorem recordsOf_recordsOf
    (selector : DedupKey)
    (key : String)
    (records : List SourceRecord) :
    recordsOf selector key (recordsOf selector key records) = recordsOf selector key records := by
  simp only [recordsOf, List.filter_filter, Bool.and_self]

/-- The conflicts of a key are those of its own records. -/
theorem conflictsOf_recordsOf
    (rules : DedupRules)
    (key : String)
    (records : List SourceRecord) :
    conflictsOf rules (recordsOf rules.key key records) =
      (conflictsOf rules records).filter (·.key = key) := by
  induction records using arrival_induction rules.key with
  | nil =>
      rfl
  | keyless seen r hkey ih =>
      rw [recordsOf_concat_of_ne (by rw [hkey]; simp), conflictsOf_concat_of_none hkey, ih]
  | first seen r k hkey hnew ih =>
      rw [conflictsOf_concat_of_not_mem hkey hnew]
      by_cases heq : key = k
      · subst heq
        have hnone : recordsOf rules.key key seen = [] := recordsOf_eq_nil_iff.mpr hnew
        rw [recordsOf_concat_self hkey, hnone,
          conflictsOf_concat_of_not_mem hkey List.not_mem_nil, ← hnone, ih]
      · rw [recordsOf_concat_of_ne (by rw [hkey]; simpa using Ne.symm heq), ih]
  | later seen r k hkey hold ih =>
      obtain ⟨existing, hkept⟩ := exists_kept?_of_mem hold
      rw [conflictsOf_concat_of_kept hkey hkept, List.filter_append]
      by_cases heq : key = k
      · subst heq
        have hown : rules.strategy.kept?
            (recordsOf rules.key key (recordsOf rules.key key seen)) = some existing := by
          rw [recordsOf_recordsOf, hkept]
        rw [recordsOf_concat_self hkey, conflictsOf_concat_of_kept hkey hown, ih]
        simp
      · rw [recordsOf_concat_of_ne (by rw [hkey]; simpa using Ne.symm heq), ih]
        simp [Ne.symm heq]

/-- The kept record of a key is the one that is kept out of its own records. -/
theorem recordsOf_keptRecords
    (rules : DedupRules)
    (key : String)
    (records : List SourceRecord) :
    recordsOf rules.key key (keptRecords rules records) =
      (rules.strategy.kept? (recordsOf rules.key key records)).toList := by
  -- the record of a slot has the key of its slot, so that only one slot is left
  have hslot : ∀ k e, rules.strategy.kept? (recordsOf rules.key k records) = some e →
      e.key? rules.key = some k := by
    intro k e he
    exact (mem_recordsOf_iff.mp (mem_of_kept? rules.strategy he)).2
  have hown : (rules.strategy.kept? (recordsOf rules.key key records)).filter
      (fun r => r.key? rules.key = some key) =
        rules.strategy.kept? (recordsOf rules.key key records) := by
    cases hkept : rules.strategy.kept? (recordsOf rules.key key records) with
    | none =>
        rfl
    | some e =>
        simp [hslot key e hkept]
  rw [recordsOf, keptRecords, List.filter_filterMap,
    filterMap_eq_toList key (nodup_distinctKeys rules.key records), hown]
  · intro k hne
    rw [Option.filter_eq_none_iff]
    intro e he
    simpa [hslot k e he] using hne
  · intro hmem
    rw [kept?_recordsOf_of_not_mem hmem, Option.filter_none]

/-- What becomes of a key is decided by its own records. -/
theorem outcome_of_own_records
    (rules : DedupRules)
    {records others : List SourceRecord}
    (hown : recordsOf rules.key key others = recordsOf rules.key key records) :
    recordsOf rules.key key (keptRecords rules others) =
        recordsOf rules.key key (keptRecords rules records) ∧
      (conflictsOf rules others).filter (·.key = key) =
        (conflictsOf rules records).filter (·.key = key) := by
  constructor
  · rw [recordsOf_keptRecords, recordsOf_keptRecords, hown]
  · rw [← conflictsOf_recordsOf, ← conflictsOf_recordsOf, hown]

end OwnRecords

section MoreRecords

variable {rules : DedupRules}

/-- The keys of some records have their slots in front of those of more records. -/
theorem distinctKeys_extend
    (selector : DedupKey)
    (records more : List SourceRecord) :
    distinctKeys selector records <+: distinctKeys selector (records ++ more) := by
  let rules : DedupRules := ⟨selector, .keepFirst⟩
  have hrun : (Pass.after rules records).run rules more =
      .ok (Pass.after rules (records ++ more)) :=
    Pass.run_after (by simp [rules]) records more
  have hslots := (Pass.extends_run hrun).slots.map Prod.fst
  simpa [Pass.after] using hslots

/-- A slot behind those of some records has a key that does not occur in them. -/
theorem key_of_new_slot
    {records more : List SourceRecord}
    {i : Nat}
    {r : SourceRecord}
    (hi : (keptRecords rules records).length ≤ i)
    (hr : (keptRecords rules (records ++ more))[i]? = some r) :
    ∃ key, r.key? rules.key = some key ∧ key ∉ distinctKeys rules.key records := by
  rw [getElem?_keptRecords] at hr
  obtain ⟨key, hslot, hkept⟩ := Option.bind_eq_some_iff.mp hr
  refine ⟨key, (mem_recordsOf_iff.mp (mem_of_kept? rules.strategy hkept)).2, fun hold => ?_⟩
  -- the slots are those of the old keys, followed by those of the new ones
  obtain ⟨new, hnew⟩ := distinctKeys_extend rules.key records more
  have hnodup := nodup_distinctKeys rules.key (records ++ more)
  rw [length_keptRecords] at hi
  rw [← hnew, List.getElem?_append_right hi] at hslot
  rw [← hnew, List.nodup_append] at hnodup
  exact hnodup.2.2 key hold key (List.mem_of_getElem? hslot) rfl

end MoreRecords

/-- More records only add to the outcome: the conflicts go on, the slots stay where they are and
keep their keys, new slots are for keys that have not appeared, and no count gets smaller.  When
first records are kept, the records in the slots stay too.  What becomes of a key does not depend
on the records of other keys. -/
theorem deduplicate_append
    (selector : DedupKey)
    (strategy : DedupStrategy)
    (hstrategy : strategy = .keepFirst ∨ strategy = .keepLatest)
    (records more : List SourceRecord) :
    ∃ start whole,
      deduplicate ⟨selector, strategy⟩ records = .ok start ∧
      deduplicate ⟨selector, strategy⟩ (records ++ more) = .ok whole ∧
      start.conflicts <+: whole.conflicts ∧
      start.records.map (·.key? selector) <+: whole.records.map (·.key? selector) ∧
      (∀ i r, start.records.length ≤ i → whole.records[i]? = some r →
        ∃ key, r.key? selector = some key ∧ ∀ s ∈ records, s.key? selector ≠ some key) ∧
      start.stats.AtMost whole.stats ∧
      (strategy = .keepFirst → start.records <+: whole.records) ∧
      ∀ key others,
        recordsOf selector key others = recordsOf selector key (records ++ more) →
        ∃ other,
          deduplicate ⟨selector, strategy⟩ others = .ok other ∧
          recordsOf selector key other.records = recordsOf selector key whole.records ∧
          other.conflicts.filter (·.key = key) = whole.conflicts.filter (·.key = key) := by
  let rules : DedupRules := ⟨selector, strategy⟩
  have hends : ∀ rs, deduplicate rules rs = .ok
      ⟨keptRecords rules rs, conflictsOf rules rs, (Pass.after rules rs).stats⟩ :=
    deduplicate_eq hstrategy
  have hrun : (Pass.after rules records).run rules more =
      .ok (Pass.after rules (records ++ more)) :=
    Pass.run_after (by rcases hstrategy with h | h <;> simp [rules, h]) records more
  have hextends := Pass.extends_run hrun
  refine ⟨_, _, hends records, hends (records ++ more), hextends.conflicts, ?_, ?_,
    hextends.stats, ?_, ?_⟩
  · have hkeys := (distinctKeys_extend selector records more).map some
    rwa [← map_key?_keptRecords rules, ← map_key?_keptRecords rules] at hkeys
  · intro i r hi hr
    obtain ⟨key, hkey, hnew⟩ := key_of_new_slot hi hr
    refine ⟨key, hkey, fun s hs hsame => ?_⟩
    exact hnew (mem_distinctKeys_iff.mpr ⟨s, hs, hsame⟩)
  · intro hfirst
    exact Pass.records_run_of_keepFirst hfirst hrun
  · intro key others hown
    have hsame := outcome_of_own_records rules hown
    exact ⟨_, hends others, hsame.1, hsame.2⟩

/-- A record of another key, and one that takes over the slot of `mixedRecords`. -/
def lateRecords : List SourceRecord :=
  [{ id := "6", email := some "b@x.org" },
    { id := "7", email := some "A@X.ORG ", createdAt := newYear 2023 }]

/-- The slot changes hands once more and stays where it is, and the new key comes behind it. -/
theorem deduplicate_append_lateRecords :
    (DedupStrategy.keepLatest = .keepFirst ∨ DedupStrategy.keepLatest = .keepLatest) ∧
    ∃ start whole,
      deduplicate ⟨.email, .keepLatest⟩ mixedRecords = .ok start ∧
      deduplicate ⟨.email, .keepLatest⟩ (mixedRecords ++ lateRecords) = .ok whole ∧
      start.conflicts <+: whole.conflicts ∧
      start.records.map (·.key? .email) <+: whole.records.map (·.key? .email) ∧
      start.stats.AtMost whole.stats ∧
      whole.records.map (·.id) = ["7", "6"] := by
  obtain ⟨start, whole, hstart, hwhole, hconflicts, hslots, -, hstats, -⟩ :=
    deduplicate_append .email .keepLatest (Or.inr rfl) mixedRecords lateRecords
  have hids : (deduplicate ⟨.email, .keepLatest⟩ (mixedRecords ++ lateRecords)).toOption.map
      (fun outcome => outcome.records.map (·.id)) = some ["7", "6"] := by
    decide +kernel
  rw [hwhole] at hids
  exact ⟨Or.inr rfl, start, whole, hstart, hwhole, hconflicts, hslots, hstats,
    Option.some.inj hids⟩

end AccountMigration
