import AccountMigration.Proofs.Dedup.Conservation
import AccountMigration.Proofs.Dedup.Refusal
import Mathlib.Data.Set.Function
import Mathlib.Order.Interval.Set.Defs

/-!
# The slots during a deduplication

Between two records the slot map leads from each key that has appeared to one slot of the output,
the slots in the order in which the keys appeared, and the record in a slot has the key of the slot.
Any state with these properties is led by the next record to a state that has them too, so that no
slot is ever looked for outside of the output.

* `firstPlace?`: the place at which a key appears first.
* `Pass.Tracks`: what the slot map, the output and the counts of a state have to do with the records
  so far.
* `Pass.Tracks.skip`, `Pass.Tracks.enter` and `Pass.Tracks.collide`: what each kind of record keeps.
* `Pass.Tracks.step_ok_or_refused` is the step, `Pass.tracks_run` the run.
* `Pass.Tracks.bijOn`: the slot map as a bijection.
* `slot_map_tracks_records`: the state behind every part of the records.
-/

namespace AccountMigration

/-- The place at which a key appears first among records. -/
def firstPlace?
    (selector : DedupKey)
    (key : String)
    (records : List SourceRecord) : Option Nat :=
  records.findIdx? fun r => r.key? selector = some key

/-- What the state of a deduplication has to do with the records that it has seen. -/
structure Pass.Tracks
    (selector : DedupKey)
    (seen : List SourceRecord)
    (p : Pass) : Prop where
  /-- No key has two entries in the slot map. -/
  single : (p.slots.map Prod.fst).Nodup
  /-- The keys that have a slot are those that have appeared. -/
  has_slot_iff : ∀ key,
    (∃ slot, p.slots.lookup key = some slot) ↔ ∃ r ∈ seen, r.key? selector = some key
  /-- The slots of the keys are the places of the output. -/
  is_slot_iff : ∀ slot,
    (∃ key, p.slots.lookup key = some slot) ↔ slot < p.records.length
  /-- The record in a slot has the key of the slot. -/
  held : ∀ key slot, p.slots.lookup key = some slot →
    ∃ r, p.records[slot]? = some r ∧ r.key? selector = some key
  /-- Of two keys, the one with the smaller slot has appeared first. -/
  ordered : ∀ key key' slot slot' i j,
    p.slots.lookup key = some slot → p.slots.lookup key' = some slot' →
    firstPlace? selector key seen = some i → firstPlace? selector key' seen = some j →
    slot < slot' → i < j
  /-- The slot map has as many entries as the output has records. -/
  size : p.slots.length = p.records.length
  unique : p.stats.unique = p.records.length
  total : p.stats.total = seen.length
  balance : p.stats.total = p.stats.unique + p.stats.duplicates + p.stats.skippedNoKey

section FirstPlace

variable {selector : DedupKey} {seen : List SourceRecord} {r : SourceRecord} {key : String}

theorem firstPlace?_lt
    {i : Nat}
    (hi : firstPlace? selector key seen = some i) :
    i < seen.length := by
  obtain ⟨hlt, -⟩ := List.findIdx?_eq_some_iff_getElem.mp hi
  exact hlt

theorem firstPlace?_eq_none_iff :
    firstPlace? selector key seen = none ↔ ¬ ∃ r ∈ seen, r.key? selector = some key := by
  simp [firstPlace?]

/-- A key that has appeared is not moved by one more record. -/
theorem firstPlace?_concat_of_seen
    (hseen : ∃ s ∈ seen, s.key? selector = some key)
    (r : SourceRecord) :
    firstPlace? selector key (seen ++ [r]) = firstPlace? selector key seen := by
  have hsome : firstPlace? selector key seen ≠ none := fun hnone =>
    firstPlace?_eq_none_iff.mp hnone hseen
  obtain ⟨i, hi⟩ := Option.ne_none_iff_exists'.mp hsome
  rw [hi]
  rw [firstPlace?] at hi ⊢
  rw [List.findIdx?_append, hi, Option.some_or]

/-- The first record of a key stands behind all others. -/
theorem firstPlace?_concat_of_first
    (hkey : r.key? selector = some key)
    (hnew : ¬ ∃ s ∈ seen, s.key? selector = some key) :
    firstPlace? selector key (seen ++ [r]) = some seen.length := by
  have hnone := firstPlace?_eq_none_iff.mpr hnew
  rw [firstPlace?] at hnone ⊢
  rw [List.findIdx?_append, hnone]
  simp [hkey]

/-- One more record brings no key that has not appeared, unless it is the first of its key. -/
theorem appeared_concat_iff
    (hold : ∀ key, r.key? selector = some key → ∃ s ∈ seen, s.key? selector = some key) :
    (∃ s ∈ seen ++ [r], s.key? selector = some key) ↔ ∃ s ∈ seen, s.key? selector = some key := by
  constructor
  · rintro ⟨s, hs, hkey⟩
    rcases List.mem_append.mp hs with hs | hs
    · exact ⟨s, hs, hkey⟩
    · rw [List.mem_singleton.mp hs] at hkey
      exact hold key hkey
  · rintro ⟨s, hs, hkey⟩
    exact ⟨s, List.mem_append_left _ hs, hkey⟩

end FirstPlace

namespace Pass

/-- A record whose key has a slot is refused together with the record in the slot. -/
structure RefusedAt
    (rules : DedupRules)
    (p : Pass)
    (r : SourceRecord)
    (key : String)
    (slot : Nat)
    (existing : SourceRecord) : Prop where
  strategy : rules.strategy = .error
  key_eq : r.key? rules.key = some key
  has_slot : p.slots.lookup key = some slot
  in_slot : p.records[slot]? = some existing
  stops : p.step rules r = .error (.error (.duplicateKey key existing.id r.id))

/-- Before the first record there are no keys, no slots and no counts. -/
theorem tracks_nil
    (selector : DedupKey) :
    ({} : Pass).Tracks selector [] := by
  constructor <;> simp

namespace Tracks

variable {selector : DedupKey} {seen : List SourceRecord} {p : Pass} {r : SourceRecord}
  {key : String}

theorem lt_of_lookup
    (hp : p.Tracks selector seen)
    {slot : Nat}
    (hslot : p.slots.lookup key = some slot) :
    slot < p.records.length :=
  (hp.is_slot_iff slot).mp ⟨key, hslot⟩

/-- Two keys have different slots, since a record has one key only. -/
theorem injective
    (hp : p.Tracks selector seen)
    {key' : String}
    {slot : Nat}
    (hslot : p.slots.lookup key = some slot)
    (hslot' : p.slots.lookup key' = some slot) :
    key = key' := by
  obtain ⟨r, hr, hkey⟩ := hp.held key slot hslot
  obtain ⟨r', hr', hkey'⟩ := hp.held key' slot hslot'
  rw [hr, Option.some.injEq] at hr'
  rw [← hr', hkey] at hkey'
  exact Option.some.inj hkey'

/-- The slot map is a bijection between the keys that have appeared and the places of the output. -/
theorem bijOn
    (hp : p.Tracks selector seen) :
    Set.BijOn (fun key => (p.slots.lookup key).getD 0)
      {key | ∃ r ∈ seen, r.key? selector = some key} (Set.Iio p.records.length) := by
  refine ⟨?_, ?_, ?_⟩
  · intro key hkey
    obtain ⟨slot, hslot⟩ := (hp.has_slot_iff key).mpr hkey
    simpa [hslot] using hp.lt_of_lookup hslot
  · intro key hkey key' hkey' hsame
    obtain ⟨slot, hslot⟩ := (hp.has_slot_iff key).mpr hkey
    obtain ⟨slot', hslot'⟩ := (hp.has_slot_iff key').mpr hkey'
    obtain rfl : slot = slot' := by simpa [hslot, hslot'] using hsame
    exact hp.injective hslot hslot'
  · intro slot hslot
    obtain ⟨key, hkey⟩ := (hp.is_slot_iff slot).mpr hslot
    exact ⟨key, (hp.has_slot_iff key).mp ⟨slot, hkey⟩, by simp [hkey]⟩

/-- One more record does not move the keys that have slots already. -/
theorem ordered_concat
    (hp : p.Tracks selector seen)
    (r : SourceRecord)
    {key' : String}
    {slot slot' i j : Nat}
    (hslot : p.slots.lookup key = some slot)
    (hslot' : p.slots.lookup key' = some slot')
    (hi : firstPlace? selector key (seen ++ [r]) = some i)
    (hj : firstPlace? selector key' (seen ++ [r]) = some j)
    (hlt : slot < slot') :
    i < j := by
  rw [firstPlace?_concat_of_seen ((hp.has_slot_iff key).mp ⟨slot, hslot⟩)] at hi
  rw [firstPlace?_concat_of_seen ((hp.has_slot_iff key').mp ⟨slot', hslot'⟩)] at hj
  exact hp.ordered key key' slot slot' i j hslot hslot' hi hj hlt

/-- A record without a key is counted and nothing else. -/
theorem skip
    (hp : p.Tracks selector seen)
    (hkey : r.key? selector = none) :
    p.skip.Tracks selector (seen ++ [r]) where
  single := hp.single
  has_slot_iff k := by
    rw [appeared_concat_iff (by simp [hkey])]
    exact hp.has_slot_iff k
  is_slot_iff := hp.is_slot_iff
  held := hp.held
  ordered _ _ _ _ _ _ := hp.ordered_concat r
  size := hp.size
  unique := hp.unique
  total := by simp [Pass.skip, hp.total]
  balance := by
    have hbalance := hp.balance
    simp only [Pass.skip]
    omega

/-- The slots after the first record of a key: the old ones, and the next one for the key. -/
theorem lookup_enter
    (hnew : p.slots.lookup key = none)
    {k : String}
    {slot : Nat} :
    (p.enter key r).slots.lookup k = some slot ↔
      p.slots.lookup k = some slot ∨ k = key ∧ slot = p.records.length := by
  rw [Pass.enter, List.lookup_append]
  by_cases hk : k = key
  · subst hk
    simp [hnew, eq_comm]
  · have hother : (k == key) = false := beq_eq_false_iff_ne.mpr hk
    simp [List.lookup_cons, hother, hk]

/-- The first record of a key gets the next slot. -/
theorem enter
    (hp : p.Tracks selector seen)
    (hkey : r.key? selector = some key)
    (hnew : p.slots.lookup key = none) :
    (p.enter key r).Tracks selector (seen ++ [r]) where
  single := by
    rw [Pass.enter, List.map_append, List.nodup_append]
    refine ⟨hp.single, List.nodup_singleton key, ?_⟩
    rintro k hk k' hk' rfl
    obtain rfl : k = key := List.mem_singleton.mp hk'
    obtain ⟨⟨_, slot⟩, hentry, rfl⟩ := List.mem_map.mp hk
    have hother := List.lookup_eq_none_iff.mp hnew _ hentry
    simp at hother
  has_slot_iff k := by
    simp only [lookup_enter hnew, exists_or, hp.has_slot_iff k]
    simp [hkey, or_and_right, exists_or, eq_comm]
  is_slot_iff slot := by
    have hlength : (p.enter key r).records.length = p.records.length + 1 := by
      simp [Pass.enter]
    have hlast : (∃ k, k = key ∧ slot = p.records.length) ↔ slot = p.records.length := by
      simp
    rw [hlength, Nat.lt_succ_iff_lt_or_eq]
    simp only [lookup_enter hnew, exists_or, hp.is_slot_iff slot, hlast]
  held k slot hk := by
    rcases (lookup_enter hnew).mp hk with hold | ⟨rfl, rfl⟩
    · obtain ⟨s, hs, hskey⟩ := hp.held k slot hold
      exact ⟨s, by rw [Pass.enter, List.getElem?_append_left (hp.lt_of_lookup hold), hs], hskey⟩
    · exact ⟨r, by simp [Pass.enter], hkey⟩
  ordered k k' slot slot' i j hk hk' hi hj hlt := by
    have hfresh : ¬ ∃ s ∈ seen, s.key? selector = some key := by
      rw [← hp.has_slot_iff key]
      simp [hnew]
    rcases (lookup_enter hnew).mp hk with hold | ⟨rfl, rfl⟩
    · have hseen := (hp.has_slot_iff k).mp ⟨slot, hold⟩
      rcases (lookup_enter hnew).mp hk' with hold' | ⟨rfl, rfl⟩
      · exact hp.ordered_concat r hold hold' hi hj hlt
      · -- every key that had appeared stands in front of the new one
        rw [firstPlace?_concat_of_seen hseen] at hi
        rw [firstPlace?_concat_of_first hkey hfresh, Option.some.injEq] at hj
        exact hj ▸ firstPlace?_lt hi
    · -- no slot is greater than the one of the new key
      rcases (lookup_enter hnew).mp hk' with hold' | ⟨rfl, rfl⟩
      · have := hp.lt_of_lookup hold'
        omega
      · omega
  size := by simp [Pass.enter, hp.size]
  unique := by simp [Pass.enter, hp.unique]
  total := by simp [Pass.enter, hp.total]
  balance := by
    have hbalance := hp.balance
    simp only [Pass.enter]
    omega

theorem length_records_collide
    (p : Pass)
    (key : String)
    (slot : Nat)
    (existing r : SourceRecord)
    (wins : Bool) :
    (p.collide key slot existing r wins).records.length = p.records.length := by
  cases wins <;> simp [Pass.collide]

/-- After a conflict the slot holds one of its two records, and the other slots what they held. -/
theorem getElem?_records_collide
    {slot : Nat}
    {existing : SourceRecord}
    (hexisting : p.records[slot]? = some existing)
    (wins : Bool)
    (s : Nat) :
    (p.collide key slot existing r wins).records[s]? =
      if s = slot then some (if wins then r else existing) else p.records[s]? := by
  obtain ⟨hlt, heq⟩ := List.getElem?_eq_some_iff.mp hexisting
  by_cases hs : s = slot
  · subst hs
    cases wins <;> simp [Pass.collide, hlt, heq]
  · cases wins <;> simp [Pass.collide, hs, Ne.symm hs]

/-- A later record of a key leaves the slots as they are, also when it takes over the slot. -/
theorem collide
    (hp : p.Tracks selector seen)
    (hkey : r.key? selector = some key)
    {slot : Nat}
    (hslot : p.slots.lookup key = some slot)
    {existing : SourceRecord}
    (hexisting : p.records[slot]? = some existing)
    (wins : Bool) :
    (p.collide key slot existing r wins).Tracks selector (seen ++ [r]) where
  single := hp.single
  has_slot_iff k := by
    rw [appeared_concat_iff fun k' hk' => ?_]
    · exact hp.has_slot_iff k
    · obtain rfl : key = k' := Option.some.inj (hkey.symm.trans hk')
      exact (hp.has_slot_iff key).mp ⟨slot, hslot⟩
  is_slot_iff s := by
    rw [length_records_collide]
    exact hp.is_slot_iff s
  held k s hk := by
    rw [getElem?_records_collide hexisting]
    by_cases hs : s = slot
    · -- the slot belongs to this key, and both records have it
      subst hs
      obtain rfl : k = key := hp.injective hk hslot
      obtain ⟨e, he, hekey⟩ := hp.held k s hslot
      obtain rfl : existing = e := Option.some.inj (hexisting.symm.trans he)
      cases wins with
      | true => exact ⟨r, if_pos rfl, hkey⟩
      | false => exact ⟨existing, if_pos rfl, hekey⟩
    · rw [if_neg hs]
      exact hp.held k s hk
  ordered _ _ _ _ _ _ := hp.ordered_concat r
  size := by
    rw [length_records_collide]
    exact hp.size
  unique := by
    rw [length_records_collide]
    exact hp.unique
  total := by simp [Pass.collide, hp.total]
  balance := by
    have hbalance := hp.balance
    simp only [Pass.collide]
    omega

/-- The next record keeps what is known, unless its key has a slot and that is an error. -/
theorem step_ok_or_refused
    {rules : DedupRules}
    (hp : p.Tracks rules.key seen)
    (r : SourceRecord) :
    (∃ q, p.step rules r = .ok q ∧ q.Tracks rules.key (seen ++ [r])) ∨
      ∃ key slot existing, p.RefusedAt rules r key slot existing := by
  cases hkey : r.key? rules.key with
  | none =>
      exact .inl ⟨p.skip, by simp only [Pass.step, hkey], hp.skip hkey⟩
  | some key =>
      cases hslot : p.slots.lookup key with
      | none =>
          exact .inl ⟨p.enter key r, by simp only [Pass.step, hkey, hslot], hp.enter hkey hslot⟩
      | some slot =>
          obtain ⟨existing, hexisting, -⟩ := hp.held key slot hslot
          have hlater := hp.collide hkey hslot hexisting
          cases hstrategy : rules.strategy with
          | error =>
              refine .inr ⟨key, slot, existing, ⟨hstrategy, hkey, hslot, hexisting, ?_⟩⟩
              simp only [Pass.step, hkey, hslot, hexisting, hstrategy]
          | none | keepFirst | keepLatest =>
              refine .inl ⟨_, ?_, hlater (rules.strategy.replaces existing r)⟩
              simp only [Pass.step, hkey, hslot, hexisting, hstrategy, DedupStrategy.replaces]

end Tracks

/-- The state that a deduplication reaches knows its records. -/
theorem tracks_run
    {rules : DedupRules}
    {seen rs : List SourceRecord}
    {p q : Pass}
    (hp : p.Tracks rules.key seen)
    (hrun : p.run rules rs = .ok q) :
    q.Tracks rules.key (seen ++ rs) := by
  induction rs generalizing p seen with
  | nil =>
      rw [run_nil, Except.ok.injEq] at hrun
      rw [List.append_nil]
      exact hrun ▸ hp
  | cons r rest ih =>
      rw [run_cons] at hrun
      rcases hp.step_ok_or_refused r with ⟨next, hstep, hnext⟩ | ⟨_, _, _, hrefused⟩
      · rw [hstep] at hrun
        rw [List.append_cons]
        exact ih hnext hrun
      · rw [hrefused.stops] at hrun
        cases hrun

/-- A deduplication reaches every part of the records that is not refused. -/
theorem exists_run_ok_iff
    {rules : DedupRules}
    (hkeyed : rules.strategy ≠ .none)
    (records : List SourceRecord) :
    (∃ p, Pass.run rules {} records = .ok p) ↔ ¬ rules.Refuses records := by
  rw [← exists_deduplicate_ok_iff, deduplicate_of_keyed hkeyed]
  cases Pass.run rules {} records <;> simp [Except.map]

end Pass

/-- The slot map during a deduplication that compares keys.  A deduplication begins with no slots,
and from any state that tracks its records the next record either leads to a state that tracks them
all or is refused together with the record in the slot of its key.  A later record of a key keeps
what is known also when it takes over the slot.  So the state that is reached behind any part of the
records tracks that part, the slot map is a bijection, and the slot that is looked up for the next
record is one of the output; every part is reached that holds no refused record. -/
theorem slot_map_tracks_records
    (rules : DedupRules)
    (hkeyed : rules.strategy ≠ .none) :
    ({} : Pass).Tracks rules.key [] ∧
    (∀ (seen : List SourceRecord) (p : Pass) (r : SourceRecord), p.Tracks rules.key seen →
      (∃ q, p.step rules r = .ok q ∧ q.Tracks rules.key (seen ++ [r])) ∨
        ∃ key slot existing, p.RefusedAt rules r key slot existing) ∧
    (∀ (seen : List SourceRecord) (p : Pass) (r : SourceRecord) (key : String) (slot : Nat),
      p.Tracks rules.key seen →
      r.key? rules.key = some key → p.slots.lookup key = some slot →
      ∃ existing, p.records[slot]? = some existing ∧
        ∀ wins, (p.collide key slot existing r wins).Tracks rules.key (seen ++ [r])) ∧
    (∀ (records : List SourceRecord) (n : Nat) (p : Pass),
      Pass.run rules {} (records.take n) = .ok p →
      p.Tracks rules.key (records.take n) ∧
      Set.BijOn (fun key => (p.slots.lookup key).getD 0)
        {key | ∃ r ∈ records.take n, r.key? rules.key = some key} (Set.Iio p.records.length) ∧
      ∀ key slot, p.slots.lookup key = some slot → slot < p.records.length) ∧
    ∀ (records : List SourceRecord) (n : Nat),
      (∃ p, Pass.run rules {} (records.take n) = .ok p) ↔ ¬ rules.Refuses (records.take n) := by
  refine ⟨Pass.tracks_nil rules.key, ?_, ?_, ?_, ?_⟩
  · intro seen p r hp
    exact hp.step_ok_or_refused r
  · intro seen p r key slot hp hkey hslot
    obtain ⟨existing, hexisting, -⟩ := hp.held key slot hslot
    exact ⟨existing, hexisting, hp.collide hkey hslot hexisting⟩
  · intro records n p hrun
    have hp : p.Tracks rules.key (records.take n) :=
      Pass.tracks_run (Pass.tracks_nil rules.key) hrun
    exact ⟨hp, hp.bijOn, fun key slot hslot => hp.lt_of_lookup hslot⟩
  · intro records n
    exact Pass.exists_run_ok_iff hkeyed (records.take n)

/-- The second of `mixedRecords` takes over the slot of the first, which stays the slot of the
key. -/
theorem slot_map_tracks_mixedRecords :
    DedupStrategy.keepLatest ≠ .none ∧
    ∃ p,
      Pass.run ⟨.email, .keepLatest⟩ {} (mixedRecords.take 2) = .ok p ∧
      p.slots = [("a@x.org", 0)] ∧
      p.records.map (·.id) = ["2"] ∧
      p.Tracks .email (mixedRecords.take 2) := by
  have hkeyed : DedupStrategy.keepLatest ≠ .none := by decide
  obtain ⟨-, -, -, hreached, hreaches⟩ :=
    slot_map_tracks_records ⟨.email, .keepLatest⟩ hkeyed
  obtain ⟨p, hrun⟩ := (hreaches mixedRecords 2).mpr fun hrefuses => nomatch hrefuses.1
  have hstate : (Pass.run ⟨.email, .keepLatest⟩ {} (mixedRecords.take 2)).toOption.map
      (fun p => (p.slots, p.records.map (·.id))) = some ([("a@x.org", 0)], ["2"]) := by
    decide +kernel
  rw [hrun] at hstate
  obtain ⟨hslots, hids⟩ := Prod.mk.inj (Option.some.inj hstate)
  exact ⟨hkeyed, p, hrun, hslots, hids, (hreached mixedRecords 2 p hrun).1⟩

end AccountMigration
