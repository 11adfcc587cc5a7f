import AccountMigration.Proofs.Dedup.Distinct

/-!
# The first repeated key

A deduplication for which duplicates are an error is refused at the first record whose key has
appeared before, whatever comes behind that record.

* `RepeatsAt`: a record has the key of an earlier one, said by places.
* `nodup_keysOf_iff`: keys are different when there are no such places.
* `FirstRepeat`: the first such record, and the only earlier one with its key.
* `exists_firstRepeat` and `firstRepeat_append`: there is one when a key comes twice, and it stays
  the same when records are added.
* `deduplicate_of_firstRepeat`: the records that are named by the error.
* `deduplicate_error_strategy`: when a deduplication is refused, with what error, and what comes
  out when it is not refused.
-/

namespace AccountMigration

/-- The records at two places have the key, the one at place `i` being the earlier. -/
structure RepeatsAt
    (selector : DedupKey)
    (records : List SourceRecord)
    (key : String)
    (i j : Nat) : Prop where
  order : i < j
  earlier_key : records[i]?.bind (·.key? selector) = some key
  later_key : records[j]?.bind (·.key? selector) = some key

/-- The record at place `j` is the first whose key has appeared before, and the key has appeared
at place `i` only. -/
structure FirstRepeat
    (selector : DedupKey)
    (records : List SourceRecord)
    (key : String)
    (i j : Nat) : Prop where
  repeats : RepeatsAt selector records key i j
  first : ∀ key' i' j', RepeatsAt selector records key' i' j' → j ≤ j'
  unique : ∀ i', RepeatsAt selector records key i' j → i' = i

section Places

variable {selector : DedupKey} {records : List SourceRecord} {key : String} {i j : Nat}

/-- Keys are different exactly when no two places have the same one. -/
theorem nodup_keysOf_iff :
    (keysOf selector records).Nodup ↔ ∀ key i j, ¬ RepeatsAt selector records key i j := by
  rw [keysOf, List.Nodup, List.pairwise_filterMap, List.pairwise_iff_getElem]
  constructor
  · rintro hdifferent key i j ⟨horder, hi, hj⟩
    obtain ⟨earlier, hearlier, hikey⟩ := Option.bind_eq_some_iff.mp hi
    obtain ⟨later, hlater, hjkey⟩ := Option.bind_eq_some_iff.mp hj
    obtain ⟨hilt, rfl⟩ := List.getElem?_eq_some_iff.mp hearlier
    obtain ⟨hjlt, rfl⟩ := List.getElem?_eq_some_iff.mp hlater
    exact hdifferent i j hilt hjlt horder key hikey key hjkey rfl
  · rintro hnone i j hi hj horder key hikey key' hjkey rfl
    refine hnone key i j ⟨horder, ?_, ?_⟩
    · rw [List.getElem?_eq_getElem hi]
      exact hikey
    · rw [List.getElem?_eq_getElem hj]
      exact hjkey

/-- Places of records are not changed by records that come behind them. -/
theorem repeatsAt_append_iff
    (more : List SourceRecord)
    (hj : j < records.length) :
    RepeatsAt selector (records ++ more) key i j ↔ RepeatsAt selector records key i j := by
  constructor
  · rintro ⟨horder, hi, hj'⟩
    rw [List.getElem?_append_left (horder.trans hj)] at hi
    rw [List.getElem?_append_left hj] at hj'
    exact ⟨horder, hi, hj'⟩
  · rintro ⟨horder, hi, hj'⟩
    refine ⟨horder, ?_, ?_⟩
    · rwa [List.getElem?_append_left (horder.trans hj)]
    · rwa [List.getElem?_append_left hj]

theorem RepeatsAt.lt_length
    (hrepeats : RepeatsAt selector records key i j) :
    j < records.length := by
  obtain ⟨later, hlater, -⟩ := Option.bind_eq_some_iff.mp hrepeats.later_key
  exact (List.getElem?_eq_some_iff.mp hlater).1

/-- The first record whose key has appeared before, behind records of different keys. -/
theorem firstRepeat_of_nodup
    {seen rest : List SourceRecord}
    (hseen : (keysOf selector seen).Nodup)
    {r earlier : SourceRecord}
    (hkey : r.key? selector = some key)
    (hi : seen[i]? = some earlier)
    (hearlier : earlier.key? selector = some key) :
    FirstRepeat selector (seen ++ r :: rest) key i seen.length := by
  have hlt : i < seen.length := (List.getElem?_eq_some_iff.mp hi).1
  have hnone := nodup_keysOf_iff.mp hseen
  refine ⟨⟨hlt, ?_, ?_⟩, ?_, ?_⟩
  · rw [List.getElem?_append_left hlt, hi]
    exact hearlier
  · simpa using hkey
  · intro key' i' j' hother
    by_contra hbefore
    exact hnone key' i' j' ((repeatsAt_append_iff _ (not_le.mp hbefore)).mp hother)
  · rintro i' ⟨hlt', hi', -⟩
    rw [List.getElem?_append_left hlt'] at hi'
    have hi : seen[i]?.bind (·.key? selector) = some key := by
      rw [hi]
      exact hearlier
    -- two places among the records of different keys have the key
    rcases Nat.lt_trichotomy i' i with hless | rfl | hmore
    · exact absurd ⟨hless, hi', hi⟩ (hnone key i' i)
    · rfl
    · exact absurd ⟨hmore, hi, hi'⟩ (hnone key i i')

/-- The first repeated key stays the first when records are added. -/
theorem firstRepeat_append
    (hfirst : FirstRepeat selector records key i j)
    (more : List SourceRecord) :
    FirstRepeat selector (records ++ more) key i j := by
  have hj := hfirst.repeats.lt_length
  refine ⟨(repeatsAt_append_iff more hj).mpr hfirst.repeats, ?_, ?_⟩
  · intro key' i' j' hother
    by_contra hbefore
    have hshort : j' < records.length := (not_le.mp hbefore).trans hj
    exact hbefore (hfirst.first key' i' j' ((repeatsAt_append_iff more hshort).mp hother))
  · intro i' hother
    exact hfirst.unique i' ((repeatsAt_append_iff more hj).mp hother)

end Places

theorem FirstRepeat.unique_places
    {selector : DedupKey}
    {records : List SourceRecord}
    {key key' : String}
    {i i' j j' : Nat}
    (hfirst : FirstRepeat selector records key i j)
    (hother : FirstRepeat selector records key' i' j') :
    key' = key ∧ i' = i ∧ j' = j := by
  obtain rfl : j' = j :=
    le_antisymm (hother.first _ _ _ hfirst.repeats) (hfirst.first _ _ _ hother.repeats)
  obtain rfl : key' = key :=
    Option.some.inj (hother.repeats.later_key.symm.trans hfirst.repeats.later_key)
  exact ⟨rfl, hfirst.unique i' hother.repeats, rfl⟩

section Refused

variable {selector : DedupKey} {records : List SourceRecord}

/-- When a key comes twice, there is a first repeat, and the error names its two records. -/
theorem exists_firstRepeat
    (hrepeat : ¬ (keysOf selector records).Nodup) :
    ∃ key i j earlier later,
      FirstRepeat selector records key i j ∧
      records[i]? = some earlier ∧
      records[j]? = some later ∧
      deduplicate ⟨selector, .error⟩ records =
        .error (.error (.duplicateKey key earlier.id later.id)) := by
  let rules : DedupRules := ⟨selector, .error⟩
  obtain ⟨seen, r, rest, key, rfl, hseen, hkey, hold⟩ := exists_first_repeat hrepeat
  have hstrategy : rules.strategy = .error := rfl
  obtain ⟨earlier, hearlier, hrun⟩ := Pass.run_refuses hstrategy rest hseen hkey hold
  obtain ⟨hmem, hsame⟩ := mem_recordsOf_iff.mp hearlier
  obtain ⟨i, hi⟩ := List.mem_iff_getElem?.mp hmem
  refine ⟨key, i, seen.length, earlier, r, firstRepeat_of_nodup hseen hkey hi hsame, ?_, ?_, ?_⟩
  · rwa [List.getElem?_append_left (List.getElem?_eq_some_iff.mp hi).1]
  · simp
  · rw [deduplicate_of_keyed (by simp), hrun]
    rfl

/-- The error names the two records of the first repeat. -/
theorem deduplicate_of_firstRepeat
    {key : String}
    {i j : Nat}
    (hfirst : FirstRepeat selector records key i j)
    {earlier later : SourceRecord}
    (hi : records[i]? = some earlier)
    (hj : records[j]? = some later) :
    deduplicate ⟨selector, .error⟩ records =
      .error (.error (.duplicateKey key earlier.id later.id)) := by
  have hrepeat : ¬ (keysOf selector records).Nodup :=
    fun hnodup => nodup_keysOf_iff.mp hnodup key i j hfirst.repeats
  obtain ⟨key', i', j', earlier', later', hother, hi', hj', herror⟩ :=
    exists_firstRepeat hrepeat
  obtain ⟨rfl, rfl, rfl⟩ := hfirst.unique_places hother
  rw [hi, Option.some.injEq] at hi'
  rw [hj, Option.some.injEq] at hj'
  rw [herror, hi', hj']

end Refused

/-- When duplicates are an error, a deduplication is refused exactly when two records have the
same key.  The error names the first record whose key has appeared before, and the only earlier
one with that key; records that come behind do not change it.  A deduplication that is not refused
has the outcome that it has under the other strategies. -/
theorem deduplicate_error_strategy
    (selector : DedupKey)
    (records : List SourceRecord) :
    ((∃ stop, deduplicate ⟨selector, .error⟩ records = .error stop) ↔
      ∃ key i j, RepeatsAt selector records key i j) ∧
    (∀ stop, deduplicate ⟨selector, .error⟩ records = .error stop →
      ∃ key i j earlier later,
        FirstRepeat selector records key i j ∧
        records[i]? = some earlier ∧
        records[j]? = some later ∧
        stop = .error (.duplicateKey key earlier.id later.id) ∧
        ∀ more, deduplicate ⟨selector, .error⟩ (records ++ more) = .error stop) ∧
    ∀ outcome, deduplicate ⟨selector, .error⟩ records = .ok outcome →
      deduplicate ⟨selector, .keepFirst⟩ records = .ok outcome ∧
      deduplicate ⟨selector, .keepLatest⟩ records = .ok outcome := by
  by_cases hnodup : (keysOf selector records).Nodup
  · have hok : deduplicate ⟨selector, .error⟩ records = .ok (keyedOutcome selector records) :=
      deduplicate_of_nodup (by simp) hnodup
    refine ⟨⟨?_, ?_⟩, ?_, ?_⟩
    · rintro ⟨stop, hstop⟩
      rw [hok] at hstop
      cases hstop
    · rintro ⟨key, i, j, hrepeats⟩
      exact absurd hrepeats (nodup_keysOf_iff.mp hnodup key i j)
    · intro stop hstop
      rw [hok] at hstop
      cases hstop
    · intro outcome houtcome
      rw [hok] at houtcome
      rw [← Except.ok.inj houtcome]
      exact ⟨deduplicate_of_nodup (by simp) hnodup, deduplicate_of_nodup (by simp) hnodup⟩
  · obtain ⟨key, i, j, earlier, later, hfirst, hi, hj, herror⟩ :=
      exists_firstRepeat hnodup
    refine ⟨⟨fun _ => ⟨key, i, j, hfirst.repeats⟩, fun _ => ⟨_, herror⟩⟩, ?_, ?_⟩
    · intro stop hstop
      rw [herror, Except.error.injEq] at hstop
      refine ⟨key, i, j, earlier, later, hfirst, hi, hj, hstop.symm, fun more => ?_⟩
      rw [← hstop]
      refine deduplicate_of_firstRepeat (firstRepeat_append hfirst more) ?_ ?_
      · rw [List.getElem?_append_left (List.getElem?_eq_some_iff.mp hi).1, hi]
      · rw [List.getElem?_append_left (List.getElem?_eq_some_iff.mp hj).1, hj]
    · intro outcome houtcome
      rw [herror] at houtcome
      cases houtcome

end AccountMigration
