import AccountMigration.Proofs.Dedup.Respelling
import AccountMigration.Proofs.Import.Sequence
import AccountMigration.Proofs.Service.Hashes

/-!
# Importing records without their password hashes

Password hashes are sent or left out, and nothing else is made of them.  An import of records from
which the hashes are taken out sends the same requests without hashes, and at a service that does
not look at hashes it has the same results and the same counters.

* `SourceRecord.withoutHash`: a record without its password hash.
* `SourceRecord.toEntry_withoutHash`: its entry.
* `Importer.callOf_withoutHash`: the call that submits such records.
* `Importer.resultsOf_withoutHash` and `Importer.statsOf_withoutHash`: what comes of it.
-/

namespace AccountMigration

/-- The same record without its password hash. -/
def SourceRecord.withoutHash
    (r : SourceRecord) : SourceRecord :=
  { r with passwordHash := none }

/-- Taking out password hashes keeps keys, times and ids. -/
def Respelling.hashless : Respelling where
  record := SourceRecord.withoutHash
  id := fun id => id
  id_record := fun _ => rfl
  key?_record := fun _ _ => rfl
  createdAt_record := fun _ => rfl

theorem EntryRules.hashOf_none
    (rules : EntryRules) :
    rules.hashOf none = none := by
  unfold hashOf
  cases rules.passwords <;> rfl

/-- Without a password hash a record has the same entry, without the hash. -/
theorem SourceRecord.toEntry_withoutHash
    (rules : EntryRules)
    (r : SourceRecord) :
    r.withoutHash.toEntry rules = (r.toEntry rules).withoutHash := by
  simp [toEntry, withoutHash, ImportEntry.withoutHash, rules.hashOf_none]

/-- The results of a batch have its ids, and otherwise depend on the details only. -/
theorem reconcile_withoutHash
    (batch : List SourceRecord)
    (details : List ImportDetail) :
    reconcile (batch.map SourceRecord.withoutHash) details = reconcile batch details := by
  induction batch generalizing details with
  | nil =>
      rfl
  | cons r rs ih =>
      rcases details with _ | ⟨d, ds⟩
      · rw [List.map_cons, reconcile, ih, reconcile]
        rfl
      · rw [List.map_cons, reconcile, ih, reconcile]
        rfl

theorem CallEnd.results_withoutHash
    (batch : List SourceRecord)
    (e : CallEnd ImportResponse) :
    e.results (batch.map SourceRecord.withoutHash) = e.results batch := by
  obtain ⟨response | error | _, words⟩ := e
  · exact reconcile_withoutHash batch response.details
  · simp [results, SourceRecord.withoutHash, Function.comp_def]
  · simp [results, SourceRecord.withoutHash, Function.comp_def]

/-- Records without password hashes are submitted by the same request without hashes. -/
theorem requestOf_withoutHash
    (rules : EntryRules)
    (onConflict : ConflictStrategy)
    (batch : List SourceRecord) :
    requestOf rules onConflict (batch.map SourceRecord.withoutHash) =
      (requestOf rules onConflict batch).withoutHashes := by
  simp [requestOf, ImportRequest.withoutHashes, SourceRecord.toEntry_withoutHash,
    Function.comp_def]

namespace Importer

variable (importer : Importer)

theorem callOf_withoutHash
    (batch : List SourceRecord) :
    importer.callOf (batch.map SourceRecord.withoutHash) =
      (importer.callOf batch).withoutHashes := by
  rw [callOf, requestOf_withoutHash]
  rfl

/-- The calls that submit records without password hashes are the same without hashes. -/
theorem map_callOf_withoutHash
    (records : List SourceRecord) :
    (importer.batchesOf (records.map SourceRecord.withoutHash)).map importer.callOf =
      ((importer.batchesOf records).map importer.callOf).map Call.withoutHashes := by
  simp [batchesOf_map, callOf_withoutHash, Function.comp_def]

section Oblivious

variable {target : Target} (htarget : target.IgnoresHashes)
include htarget

/-- The call of each batch ends in the same way, whether hashes are sent or not. -/
theorem replyTo_withoutHash
    (records : List SourceRecord)
    (k : Nat) :
    importer.replyTo target [] (records.map SourceRecord.withoutHash) k =
      importer.replyTo target [] records k := by
  refine (htarget.history _ _ _ ?_).trans (htarget.request _ _ _ ?_)
  · simp [callOf_withoutHash, Function.comp_def]
  · simp [requestOf_withoutHash]

theorem resultsOf_withoutHash
    (records : List SourceRecord) :
    importer.resultsOf target [] (records.map SourceRecord.withoutHash) =
      importer.resultsOf target [] records := by
  simp only [resultsOf, batchCount_map, batchAt_map, CallEnd.results_withoutHash,
    importer.replyTo_withoutHash htarget]

theorem statsOf_withoutHash
    (records : List SourceRecord) :
    importer.statsOf target [] (records.map SourceRecord.withoutHash) =
      importer.statsOf target [] records := by
  simp only [statsOf, batchCount_map, batchAt_map, CallEnd.stats_map,
    importer.replyTo_withoutHash htarget]

end Oblivious

end Importer

end AccountMigration
