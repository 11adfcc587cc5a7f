import AccountMigration.Proofs.Dedup.State

/-!
# Which records are refused

When duplicates are an error, records are refused as soon as a key comes a second time.  Any
other deduplication comes to its end, and it ends in the state that its records determine.

* `RepeatedKey`: an earlier and a later record of one key.
* `exists_first_repeat`: the first of the records whose key has appeared before.
* `Pass.step_refuses` is the step, `Pass.run_refuses` the run.
* `deduplicate_of_accepts` and `deduplicate_of_refuses`: how a deduplication ends.
* `deduplicate_keyed`: its outcome, when keys are compared at all.
-/

namespace AccountMigration

/-- An earlier and a later record that have the key. -/
structure RepeatedKey
    (selector : DedupKey)
    (records : List SourceRecord)
    (key : String)
    (earlier later : SourceRecord) : Prop where
  order : [earlier, later].Sublist records
  earlier_key : earlier.key? selector = some key
  later_key : later.key? selector = some key

/-- Two of the records have the same key. -/
def HasRepeatedKey
    (selector : DedupKey)
    (records : List SourceRecord) : Prop :=
  ∃ key earlier later, RepeatedKey selector records key earlier later

/-- The rules do not allow two records of one key, and there are such records. -/
def DedupRules.Refuses
    (rules : DedupRules)
    (records : List SourceRecord) : Prop :=
  rules.strategy = .error ∧ HasRepeatedKey rules.key records

section Repeats

variable {selector : DedupKey} {records : List SourceRecord} {r : SourceRecord} {key : String}

theorem keysOf_concat
    (selector : DedupKey)
    (seen : List SourceRecord)
    (r : SourceRecord) :
    keysOf selector (seen ++ [r]) = keysOf selector seen ++ (r.key? selector).toList := by
  rw [keysOf, List.filterMap_append, keysOf]
  cases hkey : r.key? selector <;> simp [hkey]

theorem nodup_keysOf_concat
    {seen : List SourceRecord} :
    (keysOf selector (seen ++ [r])).Nodup ↔
      (keysOf selector seen).Nodup ∧
        ∀ key, r.key? selector = some key → key ∉ distinctKeys selector seen := by
  rw [keysOf_concat, List.nodup_append]
  cases hkey : r.key? selector with
  | none =>
      simp
  | some key =>
      constructor
      · rintro ⟨hseen, -, hnew⟩
        refine ⟨hseen, ?_⟩
        rintro _ ⟨⟩ hmem
        rw [distinctKeys, List.mem_eraseDups] at hmem
        exact hnew key hmem key (List.mem_singleton_self key) rfl
      · rintro ⟨hseen, hnew⟩
        refine ⟨hseen, List.nodup_singleton key, ?_⟩
        rintro a ha b hb rfl
        refine hnew key rfl ?_
        rw [distinctKeys, List.mem_eraseDups, ← List.mem_singleton.mp hb]
        exact ha

/-- A record whose key has appeared before stands behind another record of that key. -/
theorem repeatedKey_of_mem
    {seen rest : List SourceRecord}
    (hkey : r.key? selector = some key)
    {earlier : SourceRecord}
    (hearlier : earlier ∈ recordsOf selector key seen) :
    RepeatedKey selector (seen ++ r :: rest) key earlier r := by
  obtain ⟨hmem, hsame⟩ := mem_recordsOf_iff.mp hearlier
  refine ⟨?_, hsame, hkey⟩
  have hfront : [earlier].Sublist seen := List.singleton_sublist.mpr hmem
  have hback : [r].Sublist (r :: rest) := List.singleton_sublist.mpr List.mem_cons_self
  exact hfront.append hback

/-- When a key comes twice, some record is the first whose key has appeared before. -/
theorem exists_first_repeat
    (hrepeat : ¬ (keysOf selector records).Nodup) :
    ∃ seen r rest key,
      records = seen ++ r :: rest ∧
      (keysOf selector seen).Nodup ∧
      r.key? selector = some key ∧
      key ∈ distinctKeys selector seen := by
  -- from the end: either the records before the last one repeat a key already, or the last
  -- record is the first to do so
  induction records using List.reverseRecOn with
  | nil =>
      exact absurd List.nodup_nil hrepeat
  | append_singleton seen r ih =>
      by_cases hseen : (keysOf selector seen).Nodup
      · rw [nodup_keysOf_concat] at hrepeat
        simp only [hseen, true_and, not_forall, not_not] at hrepeat
        obtain ⟨key, hkey, hold⟩ := hrepeat
        exact ⟨seen, r, [], key, rfl, hseen, hkey, hold⟩
      · obtain ⟨before, s, rest, key, rfl, hbefore⟩ := ih hseen
        exact ⟨before, s, rest ++ [r], key, by simp, hbefore⟩

/-- Two records have the same key exactly when the keys of all records are not different. -/
theorem hasRepeatedKey_iff :
    HasRepeatedKey selector records ↔ ¬ (keysOf selector records).Nodup := by
  constructor
  · rintro ⟨key, earlier, later, horder, hearlier, hlater⟩ hnodup
    have hkeys : [key, key].Sublist (keysOf selector records) := by
      simpa [keysOf, hearlier, hlater] using horder.filterMap (·.key? selector)
    exact List.nodup_iff_sublist.mp hnodup key hkeys
  · intro hrepeat
    obtain ⟨seen, r, rest, key, rfl, -, hkey, hold⟩ := exists_first_repeat hrepeat
    obtain ⟨earlier, hmem, hearlier⟩ := mem_distinctKeys_iff.mp hold
    exact ⟨key, earlier, r,
      repeatedKey_of_mem hkey (mem_recordsOf_iff.mpr ⟨hmem, hearlier⟩)⟩

end Repeats

section Ending

variable {rules : DedupRules} {records : List SourceRecord}

/-- Records of different keys are taken to the end, whatever the rules. -/
theorem Pass.run_of_nodup
    (hnodup : (keysOf rules.key records).Nodup) :
    Pass.run rules {} records = .ok (Pass.after rules records) := by
  induction records using List.reverseRecOn with
  | nil =>
      rfl
  | append_singleton seen r ih =>
      obtain ⟨hseen, hnew⟩ := nodup_keysOf_concat.mp hnodup
      rw [Pass.run_append, ih hseen]
      simp only [Except.bind, Pass.run_cons, Pass.step_after (Or.inr hnew), Pass.run_nil]

/-- A record whose key has appeared before is refused, together with the record that is kept
for the key. -/
theorem Pass.step_refuses
    (hstrategy : rules.strategy = .error)
    {seen : List SourceRecord}
    {r : SourceRecord}
    {key : String}
    (hkey : r.key? rules.key = some key)
    (hold : key ∈ distinctKeys rules.key seen) :
    ∃ earlier ∈ recordsOf rules.key key seen,
      (Pass.after rules seen).step rules r =
        .error (.error (.duplicateKey key earlier.id r.id)) := by
  obtain ⟨slot, hslot⟩ := List.mem_iff_getElem?.mp hold
  obtain ⟨earlier, hkept⟩ := exists_kept?_of_mem hold
  refine ⟨earlier, mem_of_kept? rules.strategy hkept, ?_⟩
  have hlookup : (Pass.after rules seen).slots.lookup key = some slot :=
    lookup_zipIdx (nodup_distinctKeys rules.key seen) hslot
  have hplace : (Pass.after rules seen).records[slot]? = some earlier :=
    (getElem?_keptRecords_of_slot hslot).trans hkept
  simp only [Pass.step, hkey, hlookup, hplace, hstrategy]

/-- Records are refused at the first whose key has appeared before. -/
theorem Pass.run_refuses
    (hstrategy : rules.strategy = .error)
    {seen : List SourceRecord}
    (rest : List SourceRecord)
    (hseen : (keysOf rules.key seen).Nodup)
    {r : SourceRecord}
    {key : String}
    (hkey : r.key? rules.key = some key)
    (hold : key ∈ distinctKeys rules.key seen) :
    ∃ earlier ∈ recordsOf rules.key key seen,
      Pass.run rules {} (seen ++ r :: rest) =
        .error (.error (.duplicateKey key earlier.id r.id)) := by
  obtain ⟨earlier, hearlier, hstep⟩ := Pass.step_refuses hstrategy hkey hold
  refine ⟨earlier, hearlier, ?_⟩
  rw [Pass.run_append, Pass.run_of_nodup hseen]
  simp only [Except.bind, Pass.run_cons, hstep]

theorem deduplicate_of_keyed
    (hkeyed : rules.strategy ≠ .none)
    (records : List SourceRecord) :
    deduplicate rules records =
      (Pass.run rules {} records).map fun p => ⟨p.records, p.conflicts, p.stats⟩ := by
  unfold deduplicate
  cases hstrategy : rules.strategy with
  | none => exact absurd hstrategy hkeyed
  | keepFirst => cases Pass.run rules {} records <;> rfl
  | keepLatest => cases Pass.run rules {} records <;> rfl
  | error => cases Pass.run rules {} records <;> rfl

theorem deduplicate_of_accepts
    (haccepts : ¬ rules.Refuses records) :
    ∃ outcome, deduplicate rules records = .ok outcome ∧
      (rules.strategy ≠ .none →
        outcome = ⟨keptRecords rules records, conflictsOf rules records,
          (Pass.after rules records).stats⟩) := by
  by_cases hkeyed : rules.strategy = .none
  · refine ⟨passThrough records, ?_, fun hne => absurd hkeyed hne⟩
    simp only [deduplicate, hkeyed]
  · refine ⟨_, ?_, fun _ => rfl⟩
    have hrun : Pass.run rules {} records = .ok (Pass.after rules records) := by
      by_cases hstrategy : rules.strategy = .error
      · refine Pass.run_of_nodup (not_not.mp ?_)
        rw [← hasRepeatedKey_iff]
        exact fun hrepeat => haccepts ⟨hstrategy, hrepeat⟩
      · exact Pass.run_eq_after hstrategy records
    rw [deduplicate_of_keyed hkeyed, hrun]
    rfl

/-- Records that are refused end the deduplication with an error that names two of them. -/
theorem deduplicate_of_refuses
    (hrefuses : rules.Refuses records) :
    ∃ key earlier later, RepeatedKey rules.key records key earlier later ∧
      deduplicate rules records =
        .error (.error (.duplicateKey key earlier.id later.id)) := by
  obtain ⟨hstrategy, hrepeat⟩ := hrefuses
  obtain ⟨seen, r, rest, key, rfl, hseen, hkey, hold⟩ :=
    exists_first_repeat (hasRepeatedKey_iff.mp hrepeat)
  obtain ⟨earlier, hearlier, hrun⟩ :=
    Pass.run_refuses hstrategy rest hseen hkey hold
  refine ⟨key, earlier, r, repeatedKey_of_mem hkey hearlier, ?_⟩
  rw [deduplicate_of_keyed (by simp [hstrategy]), hrun]
  rfl

theorem exists_deduplicate_ok_iff :
    (∃ outcome, deduplicate rules records = .ok outcome) ↔ ¬ rules.Refuses records := by
  constructor
  · rintro ⟨outcome, hok⟩ hrefuses
    obtain ⟨_, _, _, -, herror⟩ := deduplicate_of_refuses hrefuses
    rw [hok] at herror
    cases herror
  · intro haccepts
    obtain ⟨outcome, hok, -⟩ := deduplicate_of_accepts haccepts
    exact ⟨outcome, hok⟩

/-- A deduplication stops for a repeated key only. -/
theorem duplicateKey_of_deduplicate
    {stop : Stop}
    (hstop : deduplicate rules records = .error stop) :
    ∃ key existingId duplicateId,
      stop = .error (.duplicateKey key existingId duplicateId) := by
  by_cases hrefuses : rules.Refuses records
  · obtain ⟨key, earlier, later, -, herror⟩ := deduplicate_of_refuses hrefuses
    rw [hstop] at herror
    exact ⟨key, earlier.id, later.id, Except.error.inj herror⟩
  · obtain ⟨outcome, hok⟩ := exists_deduplicate_ok_iff.mpr hrefuses
    rw [hstop] at hok
    cases hok

/-- The outcome of a deduplication that compares keys. -/
theorem deduplicate_keyed
    (hkeyed : rules.strategy ≠ .none)
    {outcome : DedupOutcome}
    (hok : deduplicate rules records = .ok outcome) :
    outcome = ⟨keptRecords rules records, conflictsOf rules records,
      (Pass.after rules records).stats⟩ := by
  have haccepts := exists_deduplicate_ok_iff.mp ⟨outcome, hok⟩
  obtain ⟨other, hother, hclosed⟩ := deduplicate_of_accepts haccepts
  rw [hok] at hother
  rw [Except.ok.inj hother]
  exact hclosed hkeyed

theorem total_of_deduplicate
    {outcome : DedupOutcome}
    (hok : deduplicate rules records = .ok outcome) :
    outcome.stats.total = records.length := by
  by_cases hkeyed : rules.strategy = .none
  · simp only [deduplicate, hkeyed] at hok
    cases hok
    rfl
  · rw [deduplicate_keyed hkeyed hok]
    rfl

end Ending

end AccountMigration
