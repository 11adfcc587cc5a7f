import AccountMigration.Dedup.Pass
import AccountMigration.Proofs.Time.Order
import Mathlib.Data.List.Nodup
import Mathlib.Data.List.Induction

/-!
# Records grouped by key

What a deduplication should keep, said without looking at records one by one: the different
keys in the order of first appearance, the records of each key, and which of them is kept.

* `distinctKeys` and `recordsOf`: the different keys, and the records of a key.
* `arrival_induction`: a record has no key, is the first of its key, or a later one.
* `latest?`: the first record with the latest time, or the first record of all.
* `DedupStrategy.kept?`: the record of a group that a strategy keeps.
* `kept?_concat`: one more record is kept, or leaves the kept record as it is.
-/

namespace AccountMigration

/-- The keys of records in order, where records without a key are left out. -/
def keysOf
    (selector : DedupKey)
    (records : List SourceRecord) : List String :=
  records.filterMap (·.key? selector)

/-- The different keys in the order in which they appear first. -/
def distinctKeys
    (selector : DedupKey)
    (records : List SourceRecord) : List String :=
  (keysOf selector records).eraseDups

/-- The records of a key in order. -/
def recordsOf
    (selector : DedupKey)
    (key : String)
    (records : List SourceRecord) : List SourceRecord :=
  records.filter fun r => r.key? selector = some key

/-- The first record with the latest of all times that are present, or the first record of
all when no time is present. -/
def latest?
    (group : List SourceRecord) : Option SourceRecord :=
  match (group.filterMap (·.createdAt)).max? with
  | some t => group.find? fun r => r.createdAt = some t
  | none => group.head?

/-- The record that a strategy keeps out of those of one key. -/
def DedupStrategy.kept?
    (strategy : DedupStrategy)
    (group : List SourceRecord) : Option SourceRecord :=
  match strategy with
  | .keepLatest => latest? group
  | _ => group.head?

/-- Whether a strategy lets a record take the place of another one. -/
def DedupStrategy.replaces
    (strategy : DedupStrategy)
    (existing r : SourceRecord) : Bool :=
  match strategy with
  | .keepLatest => r.supersedes existing
  | _ => false

section Keys

variable {selector : DedupKey} {r : SourceRecord} {key : String}

theorem mem_keysOf_iff
    {records : List SourceRecord} :
    key ∈ keysOf selector records ↔ ∃ r ∈ records, r.key? selector = some key := by
  rw [keysOf, List.mem_filterMap]

theorem mem_distinctKeys_iff
    {records : List SourceRecord} :
    key ∈ distinctKeys selector records ↔ ∃ r ∈ records, r.key? selector = some key := by
  rw [distinctKeys, List.mem_eraseDups, mem_keysOf_iff]

theorem distinctKeys_concat
    (selector : DedupKey)
    (seen : List SourceRecord)
    (r : SourceRecord) :
    distinctKeys selector (seen ++ [r]) =
      distinctKeys selector seen ++
        (((r.key? selector).toList).removeAll (keysOf selector seen)).eraseDups := by
  rw [distinctKeys, keysOf, List.filterMap_append, List.eraseDups_append]
  cases hkey : r.key? selector <;> simp [hkey, distinctKeys, keysOf]

theorem distinctKeys_concat_of_none
    (hkey : r.key? selector = none)
    (seen : List SourceRecord) :
    distinctKeys selector (seen ++ [r]) = distinctKeys selector seen := by
  simp [distinctKeys_concat, hkey]

/-- A key that has appeared does not appear again. -/
theorem distinctKeys_concat_of_mem
    (hkey : r.key? selector = some key)
    {seen : List SourceRecord}
    (hmem : key ∈ distinctKeys selector seen) :
    distinctKeys selector (seen ++ [r]) = distinctKeys selector seen := by
  rw [distinctKeys, List.mem_eraseDups] at hmem
  simp [distinctKeys_concat, hkey, List.removeAll, hmem]

/-- A new key comes behind all others. -/
theorem distinctKeys_concat_of_not_mem
    (hkey : r.key? selector = some key)
    {seen : List SourceRecord}
    (hmem : key ∉ distinctKeys selector seen) :
    distinctKeys selector (seen ++ [r]) = distinctKeys selector seen ++ [key] := by
  rw [distinctKeys, List.mem_eraseDups] at hmem
  simp [distinctKeys_concat, hkey, List.removeAll, hmem, List.eraseDups_cons]

/-- Records come one by one: each has no key, is the first of its key, or a later one. -/
@[elab_as_elim]
theorem arrival_induction
    (selector : DedupKey)
    {motive : List SourceRecord → Prop}
    (nil : motive [])
    (keyless : ∀ seen r, r.key? selector = none → motive seen → motive (seen ++ [r]))
    (first : ∀ seen r key, r.key? selector = some key → key ∉ distinctKeys selector seen →
      motive seen → motive (seen ++ [r]))
    (later : ∀ seen r key, r.key? selector = some key → key ∈ distinctKeys selector seen →
      motive seen → motive (seen ++ [r]))
    (records : List SourceRecord) :
    motive records := by
  induction records using List.reverseRecOn with
  | nil =>
      exact nil
  | append_singleton seen r ih =>
      cases hkey : r.key? selector with
      | none =>
          exact keyless seen r hkey ih
      | some key =>
          by_cases hmem : key ∈ distinctKeys selector seen
          · exact later seen r key hkey hmem ih
          · exact first seen r key hkey hmem ih

/-- No key is listed twice. -/
theorem nodup_distinctKeys
    (selector : DedupKey)
    (records : List SourceRecord) :
    (distinctKeys selector records).Nodup := by
  induction records using arrival_induction selector with
  | nil =>
      exact List.nodup_nil
  | keyless seen r hkey ih =>
      rwa [distinctKeys_concat_of_none hkey]
  | first seen r key hkey hmem ih =>
      rw [distinctKeys_concat_of_not_mem hkey hmem, List.nodup_append]
      refine ⟨ih, List.nodup_singleton key, ?_⟩
      intro a ha b hb hab
      rw [List.mem_singleton] at hb
      exact hmem (hb ▸ hab ▸ ha)
  | later seen r key hkey hmem ih =>
      rwa [distinctKeys_concat_of_mem hkey hmem]

theorem mem_recordsOf_iff
    {records : List SourceRecord} :
    r ∈ recordsOf selector key records ↔ r ∈ records ∧ r.key? selector = some key := by
  simp [recordsOf]

theorem recordsOf_concat_self
    (hkey : r.key? selector = some key)
    (seen : List SourceRecord) :
    recordsOf selector key (seen ++ [r]) = recordsOf selector key seen ++ [r] := by
  simp [recordsOf, List.filter_append, hkey]

theorem recordsOf_concat_of_ne
    (hkey : r.key? selector ≠ some key)
    (seen : List SourceRecord) :
    recordsOf selector key (seen ++ [r]) = recordsOf selector key seen := by
  simp [recordsOf, List.filter_append, hkey]

/-- A key has records exactly when it is one of the keys. -/
theorem recordsOf_eq_nil_iff
    {records : List SourceRecord} :
    recordsOf selector key records = [] ↔ key ∉ distinctKeys selector records := by
  rw [recordsOf, List.filter_eq_nil_iff, mem_distinctKeys_iff]
  simp

end Keys

section Latest

variable {group : List SourceRecord} {e r : SourceRecord}

/-- The latest record is the first whose time is the latest of all, both being absent when no
time is present. -/
theorem latest?_eq_find?
    (group : List SourceRecord) :
    latest? group =
      group.find? fun r => r.createdAt = (group.filterMap (·.createdAt)).max? := by
  unfold latest?
  cases hmax : (group.filterMap (·.createdAt)).max? with
  | some t =>
      rfl
  | none =>
      rw [List.max?_eq_none_iff, List.filterMap_eq_nil_iff] at hmax
      cases group with
      | nil =>
          rfl
      | cons a rest =>
          rw [List.find?_cons_of_pos (by simpa using hmax a List.mem_cons_self)]
          rfl

/-- The record that is kept has the latest time of all. -/
theorem createdAt_of_latest?
    (he : latest? group = some e) :
    e.createdAt = (group.filterMap (·.createdAt)).max? := by
  rw [latest?_eq_find?] at he
  simpa using List.find?_some he

theorem find?_createdAt_concat
    (hr : ∀ a ∈ group, a.createdAt ≠ r.createdAt) :
    (group ++ [r]).find? (fun a => a.createdAt = r.createdAt) = some r := by
  have hnone : group.find? (fun a => a.createdAt = r.createdAt) = none := by
    simpa using hr
  rw [List.find?_append, hnone]
  simp

/-- One more record is the latest when it is later than the latest so far, and otherwise
leaves it as it is. -/
theorem latest?_concat
    (he : latest? group = some e)
    (r : SourceRecord) :
    latest? (group ++ [r]) = some (if r.supersedes e then r else e) := by
  have hmax := createdAt_of_latest? he
  cases hr : r.createdAt with
  | none =>
      have htimes :
          (group ++ [r]).filterMap (·.createdAt) = group.filterMap (·.createdAt) := by
        simp [hr]
      rw [latest?_eq_find?] at he
      rw [latest?_eq_find?, htimes, List.find?_append, he]
      simp [SourceRecord.supersedes, hr]
  | some t =>
      have htimes :
          (group ++ [r]).filterMap (·.createdAt) = group.filterMap (·.createdAt) ++ [t] := by
        simp [hr]
      rw [latest?_eq_find?, htimes, Timestamp.max?_concat, ← hmax]
      cases hold : e.createdAt with
      | none =>
          -- no record so far has a time, so the new one is the only one that has
          have hnone : ∀ a ∈ group, a.createdAt ≠ r.createdAt := by
            intro a ha heq
            rw [hold, eq_comm, List.max?_eq_none_iff, List.filterMap_eq_nil_iff] at hmax
            rw [hmax a ha, hr] at heq
            exact absurd heq (by simp)
          have hwins : r.supersedes e = true := by
            simp [SourceRecord.supersedes, hr, hold]
          have hfind := find?_createdAt_concat hnone
          rw [hr] at hfind
          rw [Option.elim_none, hwins, if_pos rfl]
          exact hfind
      | some u =>
          rw [hold, eq_comm, List.max?_eq_some_iff] at hmax
          by_cases hlater : u < t
          · have hnone : ∀ a ∈ group, a.createdAt ≠ r.createdAt := by
              intro a ha heq
              have hle := hmax.2 t (List.mem_filterMap.mpr ⟨a, ha, heq.trans hr⟩)
              exact absurd hle (not_le_of_gt hlater)
            have hwins : r.supersedes e = true := by
              simpa [SourceRecord.supersedes, hr, hold] using (t.isAfter_iff u).mpr hlater
            have hfind := find?_createdAt_concat hnone
            rw [hr] at hfind
            rw [Option.elim_some, max_eq_right_of_lt hlater, hwins, if_pos rfl]
            exact hfind
          · have hloses : r.supersedes e = false := by
              rw [← Bool.not_eq_true]
              simpa [SourceRecord.supersedes, hr, hold] using
                fun h => hlater ((t.isAfter_iff u).mp h)
            have hfirst := he
            rw [latest?_eq_find?, ← createdAt_of_latest? he, hold] at hfirst
            rw [Option.elim_some, max_eq_left (le_of_not_gt hlater), List.find?_append,
              hfirst, hloses]
            rfl

theorem latest?_singleton
    (r : SourceRecord) :
    latest? [r] = some r := by
  cases hr : r.createdAt <;> simp [latest?, hr]

theorem head?_concat
    (he : group.head? = some e)
    (r : SourceRecord) :
    (group ++ [r]).head? = some e := by
  rw [List.head?_append, he, Option.some_or]

variable (strategy : DedupStrategy)

theorem kept?_nil :
    strategy.kept? [] = none := by
  cases strategy <;> rfl

theorem kept?_singleton
    (r : SourceRecord) :
    strategy.kept? [r] = some r := by
  cases strategy with
  | keepLatest =>
      exact latest?_singleton r
  | none => rfl
  | keepFirst => rfl
  | error => rfl

/-- One more record takes the place of the kept one, or leaves it as it is. -/
theorem kept?_concat
    (he : strategy.kept? group = some e)
    (r : SourceRecord) :
    strategy.kept? (group ++ [r]) = some (if strategy.replaces e r then r else e) := by
  cases strategy with
  | keepLatest =>
      exact latest?_concat he r
  | none => exact head?_concat he r
  | keepFirst => exact head?_concat he r
  | error => exact head?_concat he r

theorem mem_of_kept?
    (he : strategy.kept? group = some e) :
    e ∈ group := by
  cases strategy with
  | keepLatest =>
      have hfind : latest? group = some e := he
      rw [latest?_eq_find?] at hfind
      exact List.mem_of_find?_eq_some hfind
  | none => exact List.mem_of_head? he
  | keepFirst => exact List.mem_of_head? he
  | error => exact List.mem_of_head? he

/-- Every group of records has one that is kept. -/
theorem exists_kept?
    (hne : group ≠ []) :
    ∃ e, strategy.kept? group = some e := by
  induction group using List.reverseRecOn with
  | nil =>
      exact absurd rfl hne
  | append_singleton group r ih =>
      by_cases hgroup : group = []
      · subst hgroup
        exact ⟨r, kept?_singleton strategy r⟩
      · obtain ⟨e, he⟩ := ih hgroup
        exact ⟨_, kept?_concat strategy he r⟩

end Latest

end AccountMigration
