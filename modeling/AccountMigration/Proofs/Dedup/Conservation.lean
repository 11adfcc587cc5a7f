import AccountMigration.Proofs.Dedup.State
import Mathlib.Data.List.Perm.Basic

/-!
# Nothing is lost and nothing is counted twice

Every record with a key is in the output or is the loser of one conflict, whatever the order
in which the records of different keys are mixed.

* `repeatsOf`: the records whose key has appeared before; the log has one conflict for each.
* `ConflictChain`: conflicts of one key, each with the winner of the one before.
* `conflictsOf_chain`: the log has such a chain for each key, from its first record to the one
  that is kept.
* `keptRecords_conserved`: the kept records and the losers are the records with a key.
* `deduplicate_conserves`: all of it for the outcome of a deduplication.
-/

namespace AccountMigration

/-- A record with its key, if the key has appeared before. -/
def repeatAt
    (selector : DedupKey)
    (seen : List SourceRecord)
    (r : SourceRecord) : Option (String × SourceRecord) :=
  match r.key? selector with
  | none => none
  | some key => if key ∈ keysOf selector seen then some (key, r) else none

/-- The records that are not the first of their key, with their keys. -/
def repeatsOf
    (selector : DedupKey)
    (records : List SourceRecord) : List (String × SourceRecord) :=
  broughtBy (repeatAt selector) records

/-- The record of a conflict that has the slot afterwards. -/
def Conflict.winner
    (strategy : DedupStrategy)
    (c : Conflict) : SourceRecord :=
  if strategy.replaces c.existing c.duplicate then c.duplicate else c.existing

/-- The record of a conflict that does not have the slot afterwards. -/
def Conflict.loser
    (strategy : DedupStrategy)
    (c : Conflict) : SourceRecord :=
  if strategy.replaces c.existing c.duplicate then c.existing else c.duplicate

/-- Conflicts that lead from a first record to a last one: each is with the winner of the one
before. -/
def ConflictChain
    (strategy : DedupStrategy)
    (first : SourceRecord) : List Conflict → SourceRecord → Prop
  | [], last => first = last
  | c :: rest, last => c.existing = first ∧ ConflictChain strategy (c.winner strategy) rest last

section Chain

variable {strategy : DedupStrategy} {first last : SourceRecord} {cs : List Conflict}

/-- A conflict with the last record of a chain makes the chain longer. -/
theorem ConflictChain.concat
    (hchain : ConflictChain strategy first cs last)
    {c : Conflict}
    (hc : c.existing = last) :
    ConflictChain strategy first (cs ++ [c]) (c.winner strategy) := by
  induction cs generalizing first with
  | nil =>
      have hfirst : first = last := hchain
      exact ⟨hc.trans hfirst.symm, rfl⟩
  | cons d rest ih =>
      exact ⟨hchain.1, ih hchain.2⟩

end Chain

section Log

variable {rules : DedupRules} {key : String}

theorem isSome_kept?_recordsOf
    (rules : DedupRules)
    (key : String)
    (seen : List SourceRecord) :
    (rules.strategy.kept? (recordsOf rules.key key seen)).isSome =
      decide (key ∈ keysOf rules.key seen) := by
  by_cases hmem : key ∈ distinctKeys rules.key seen
  · obtain ⟨e, he⟩ := exists_kept?_of_mem hmem
    rw [distinctKeys, List.mem_eraseDups] at hmem
    simp [he, hmem]
  · have hnone := kept?_recordsOf_of_not_mem hmem
    rw [distinctKeys, List.mem_eraseDups] at hmem
    simp [hnone, hmem]

/-- The log has one conflict for each record that is not the first of its key. -/
theorem map_conflictsOf
    (rules : DedupRules)
    (records : List SourceRecord) :
    (conflictsOf rules records).map (fun c => (c.key, c.duplicate)) =
      repeatsOf rules.key records := by
  rw [conflictsOf, repeatsOf, broughtBy, broughtBy, List.map_filterMap]
  refine List.filterMap_congr fun p _ => ?_
  simp only [conflictAt, repeatAt]
  cases p.1.key? rules.key with
  | none =>
      rfl
  | some key =>
      have hsome := isSome_kept?_recordsOf rules key (records.take p.2)
      cases hkept : rules.strategy.kept? (recordsOf rules.key key (records.take p.2)) with
      | none =>
          rw [hkept, Option.isSome_none, eq_comm, decide_eq_false_iff_not] at hsome
          simp [hkept, hsome]
      | some e =>
          rw [hkept, Option.isSome_some, eq_comm, decide_eq_true_iff] at hsome
          simp [hkept, hsome]

theorem filter_conflictsOf_of_not_mem
    {seen : List SourceRecord}
    (hmem : key ∉ distinctKeys rules.key seen) :
    (conflictsOf rules seen).filter (·.key = key) = [] := by
  rw [List.filter_eq_nil_iff]
  intro c hc hkey
  have hrepeat : (c.key, c.duplicate) ∈ repeatsOf rules.key seen := by
    rw [← map_conflictsOf]
    exact List.mem_map.mpr ⟨c, hc, rfl⟩
  rw [repeatsOf, broughtBy, List.mem_filterMap] at hrepeat
  obtain ⟨⟨r, i⟩, hp, hr⟩ := hrepeat
  simp only [repeatAt] at hr
  cases hk : r.key? rules.key with
  | none =>
      simp [hk] at hr
  | some k =>
      have hrmem := List.mem_of_getElem? (List.mem_zipIdx_iff_getElem?.mp hp)
      simp only [hk] at hr
      split at hr
      · rw [Option.some.injEq, Prod.mk.injEq] at hr
        refine hmem (mem_distinctKeys_iff.mpr ⟨r, hrmem, ?_⟩)
        rw [hk, hr.1]
        simpa using hkey
      · simp at hr

/-- The conflicts of a key are a chain from its first record to the one that is kept. -/
theorem conflictsOf_chain
    (rules : DedupRules)
    (records : List SourceRecord)
    (hmem : key ∈ distinctKeys rules.key records) :
    ∃ first last,
      (recordsOf rules.key key records).head? = some first ∧
      rules.strategy.kept? (recordsOf rules.key key records) = some last ∧
      ConflictChain rules.strategy first
        ((conflictsOf rules records).filter (·.key = key)) last := by
  induction records using arrival_induction rules.key with
  | nil =>
      simp [distinctKeys, keysOf] at hmem
  | keyless seen r hkey ih =>
      rw [distinctKeys_concat_of_none hkey] at hmem
      rw [recordsOf_concat_of_ne (by rw [hkey]; simp), conflictsOf_concat_of_none hkey]
      exact ih hmem
  | first seen r k hkey hnew ih =>
      rw [conflictsOf_concat_of_not_mem hkey hnew]
      by_cases heq : key = k
      · subst heq
        rw [recordsOf_concat_self hkey, recordsOf_eq_nil_iff.mpr hnew,
          filter_conflictsOf_of_not_mem hnew]
        exact ⟨r, r, rfl, kept?_singleton rules.strategy r, rfl⟩
      · rw [distinctKeys_concat_of_not_mem hkey hnew, List.mem_append, List.mem_singleton] at hmem
        rw [recordsOf_concat_of_ne (by rw [hkey]; simpa using Ne.symm heq)]
        exact ih (hmem.resolve_right heq)
  | later seen r k hkey hold ih =>
      rw [distinctKeys_concat_of_mem hkey hold] at hmem
      obtain ⟨first, last, hfirst, hlast, hchain⟩ := ih hmem
      by_cases heq : key = k
      · subst heq
        rw [recordsOf_concat_self hkey, conflictsOf_concat_of_kept hkey hlast]
        refine ⟨first, _, head?_concat hfirst r, kept?_concat rules.strategy hlast r, ?_⟩
        have hlonger := hchain.concat (c := ⟨key, last, r⟩) rfl
        simpa [List.filter_append, Conflict.winner] using hlonger
      · obtain ⟨existing, hkept⟩ := exists_kept?_of_mem hold
        rw [recordsOf_concat_of_ne (by rw [hkey]; simpa using Ne.symm heq),
          conflictsOf_concat_of_kept hkey hkept, List.filter_append]
        refine ⟨first, last, hfirst, hlast, ?_⟩
        simpa [Ne.symm heq] using hchain

end Log

section Records

variable {rules : DedupRules}

/-- A record that takes over a slot leaves the one that was there. -/
theorem perm_set_append
    {α : Type}
    {xs : List α}
    {i : Nat}
    {old : α}
    (hi : xs[i]? = some old)
    (new : α) :
    (xs.set i new ++ [old]).Perm (xs ++ [new]) := by
  obtain ⟨hlt, rfl⟩ := List.getElem?_eq_some_iff.mp hi
  calc
    (xs.set i new ++ [xs[i]]).Perm (xs[i] :: xs.set i new) := List.perm_append_singleton _ _
    List.Perm _ (xs[i] :: new :: xs.eraseIdx i) := (List.set_perm_cons_eraseIdx hlt new).cons _
    List.Perm _ (new :: xs[i] :: xs.eraseIdx i) := List.Perm.swap _ _ _
    List.Perm _ (new :: xs) := (List.getElem_cons_eraseIdx_perm hlt).cons _
    List.Perm _ (xs ++ [new]) := (List.perm_append_singleton _ _).symm

theorem perm_append_last
    {α : Type}
    (xs ys : List α)
    (x : α) :
    (xs ++ [x] ++ ys).Perm (xs ++ ys ++ [x]) := by
  rw [List.append_assoc, List.append_assoc]
  exact List.perm_append_comm.append_left xs

/-- A conflict in a slot moves one of its two records to the losers. -/
theorem perm_set_winner
    (strategy : DedupStrategy)
    {records : List SourceRecord}
    {c : Conflict}
    {slot : Nat}
    (hslot : records[slot]? = some c.existing) :
    (records.set slot (c.winner strategy) ++ [c.loser strategy]).Perm
      (records ++ [c.duplicate]) := by
  unfold Conflict.winner Conflict.loser
  split
  · exact perm_set_append hslot c.duplicate
  · obtain ⟨hlt, heq⟩ := List.getElem?_eq_some_iff.mp hslot
    rw [← heq, List.set_getElem_self]

/-- The kept records and the losers of all conflicts are the records with a key. -/
theorem keptRecords_conserved
    (rules : DedupRules)
    (records : List SourceRecord) :
    (keptRecords rules records ++
      (conflictsOf rules records).map (·.loser rules.strategy)).Perm
        (records.filter fun r => (r.key? rules.key).isSome) := by
  induction records using arrival_induction rules.key with
  | nil =>
      exact List.Perm.refl []
  | keyless seen r hkey ih =>
      rw [keptRecords_concat_of_none hkey, conflictsOf_concat_of_none hkey, List.filter_append]
      simpa [hkey] using ih
  | first seen r key hkey hmem ih =>
      rw [keptRecords_concat_of_not_mem hkey hmem, conflictsOf_concat_of_not_mem hkey hmem,
        List.filter_append]
      refine (perm_append_last _ _ r).trans ?_
      simpa [hkey] using ih.append_right [r]
  | later seen r key hkey hmem ih =>
      obtain ⟨slot, hslot⟩ := List.mem_iff_getElem?.mp hmem
      obtain ⟨existing, hkept⟩ := exists_kept?_of_mem hmem
      have hplace := (getElem?_keptRecords_of_slot hslot).trans hkept
      have hmoved := perm_set_winner rules.strategy (c := ⟨key, existing, r⟩) hplace
      rw [keptRecords_concat_of_slot hkey hslot hkept, conflictsOf_concat_of_kept hkey hkept,
        List.filter_append, List.map_append, ← List.append_assoc]
      -- bring the loser next to the slot, exchange it for the new record, and move that back
      refine (perm_append_last _ _ _).symm.trans ?_
      refine (hmoved.append_right _).trans ?_
      refine (perm_append_last _ _ r).trans ?_
      simpa [hkey] using ih.append_right [r]

end Records

/-- A deduplication that keeps one record of each key loses nothing and counts nothing twice.
The counts add up; the log lists the records that are not the first of their key; the
conflicts of a key lead from its first record to the one in its slot; and the output and the
losers of the conflicts are the records with a key. -/
theorem deduplicate_conserves
    (selector : DedupKey)
    (strategy : DedupStrategy)
    (hstrategy : strategy = .keepFirst ∨ strategy = .keepLatest)
    (records : List SourceRecord) :
    ∃ outcome,
      deduplicate ⟨selector, strategy⟩ records = .ok outcome ∧
      outcome.stats.total = records.length ∧
      outcome.stats.unique + outcome.stats.duplicates + outcome.stats.skippedNoKey =
        outcome.stats.total ∧
      outcome.records.length = outcome.stats.unique ∧
      outcome.stats.unique = (distinctKeys selector records).length ∧
      outcome.conflicts.length = outcome.stats.duplicates ∧
      outcome.conflicts.map (fun c => (c.key, c.duplicate)) = repeatsOf selector records ∧
      (∀ (i : Nat) (key : String), (distinctKeys selector records)[i]? = some key →
        ∃ first last,
          (recordsOf selector key records).head? = some first ∧
          outcome.records[i]? = some last ∧
          ConflictChain strategy first (outcome.conflicts.filter (·.key = key)) last) ∧
      (outcome.records ++ outcome.conflicts.map (·.loser strategy)).Perm
        (records.filter fun r => (r.key? selector).isSome) := by
  let rules : DedupRules := ⟨selector, strategy⟩
  have hends : deduplicate rules records = .ok ⟨keptRecords rules records,
      conflictsOf rules records, (Pass.after rules records).stats⟩ :=
    deduplicate_eq hstrategy records
  refine ⟨_, hends, rfl, Pass.stats_balance rules records, length_keptRecords rules records, rfl,
    rfl, map_conflictsOf rules records, ?_, keptRecords_conserved rules records⟩
  intro i key hi
  obtain ⟨first, last, hfirst, hlast, hchain⟩ :=
    conflictsOf_chain rules records (List.mem_of_getElem? hi)
  exact ⟨first, last, hfirst, (getElem?_keptRecords_of_slot hi).trans hlast, hchain⟩

/-- The first moment of a year. -/
def newYear
    (year : Int) : Option Timestamp :=
  (Date.of? year 1 1).bind fun date => Timestamp.of? date 0 0

/-- Four records with the email address in different spellings, and one without. -/
def mixedRecords : List SourceRecord :=
  [{ id := "1", email := some "a@x.org", createdAt := newYear 2020 },
    { id := "2", email := some "A@x.org", createdAt := newYear 2021 },
    { id := "3" },
    { id := "4", email := some " a@X.org", createdAt := newYear 2019 },
    { id := "5", email := some "a@x.org", createdAt := newYear 2022 }]

/-- The slot changes hands twice, and each of four records with a key is counted once. -/
theorem deduplicate_mixedRecords :
    (DedupStrategy.keepLatest = .keepFirst ∨ DedupStrategy.keepLatest = .keepLatest) ∧
    ∃ outcome,
      deduplicate ⟨.email, .keepLatest⟩ mixedRecords = .ok outcome ∧
      outcome.conflicts.map (·.duplicate.id) = ["2", "4", "5"] ∧
      ∃ first last,
        first.id = "1" ∧
        outcome.records[0]? = some last ∧
        ConflictChain .keepLatest first (outcome.conflicts.filter (·.key = "a@x.org")) last := by
  obtain ⟨outcome, hends, -, -, -, -, -, hlog, hchain, -⟩ :=
    deduplicate_conserves .email .keepLatest (Or.inr rfl) mixedRecords
  obtain ⟨first, last, hfirst, hlast, hconflicts⟩ := hchain 0 "a@x.org" (by decide)
  have hids : outcome.conflicts.map (·.duplicate.id) =
      (repeatsOf .email mixedRecords).map (·.2.id) := by
    rw [← hlog, List.map_map]
    rfl
  have hid : some first.id = some "1" := by
    rw [← Option.map_some, ← hfirst]
    decide
  exact ⟨Or.inr rfl, outcome, hends, hids.trans (by decide), first, last,
    Option.some.inj hid, hlast, hconflicts⟩

end AccountMigration
