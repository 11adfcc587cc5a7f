import AccountMigration.Proofs.Import.Sequence
import AccountMigration.Proofs.Service.Faithful

/-!
# What an import submits

Whatever becomes of the batches, an import submits each record once and in order, and counts it
once.

* `Importer.sentEntries_batchesOf`: the accounts that are sent are the entries of the records.
* `Importer.total_statsOf`: the total is the number of records.
* `Importer.importAll_of_ok`: an import that comes to its end comes out in closed form.
-/

namespace AccountMigration

theorem sentEntries_map_callOf
    (importer : Importer)
    (batches : List (List SourceRecord)) :
    sentEntries (batches.map importer.callOf) =
      batches.flatten.map (SourceRecord.toEntry importer.rules) := by
  induction batches with
  | nil =>
      rfl
  | cons batch batches ih =>
      rw [List.flatten_cons, List.map_append, ← ih]
      rfl

/-- A batch counts all of its records, also when its request failed or broke down. -/
theorem CallEnd.total_stats
    (batch : List SourceRecord)
    (e : CallEnd ImportResponse) :
    (e.stats batch).total = batch.length := by
  obtain ⟨reply, words⟩ := e
  cases reply <;> rfl

theorem CallEnd.total_sum_stats
    (replies : Nat → CallEnd ImportResponse)
    (batches : Nat → List SourceRecord)
    (ks : List Nat) :
    ((ks.map fun k => (replies k).stats (batches k)).sum).total =
      (ks.flatMap batches).length := by
  induction ks with
  | nil =>
      rfl
  | cons k ks ih =>
      rw [List.map_cons, List.sum_cons, List.flatMap_cons, List.length_append, ← ih,
        ← (replies k).total_stats]
      rfl

namespace Importer

variable (importer : Importer) (target : Target) (calls : List Call)
  (records : List SourceRecord)

/-- The batches carry the entries of the records in order. -/
theorem sentEntries_batchesOf :
    sentEntries ((importer.batchesOf records).map importer.callOf) =
      records.map (SourceRecord.toEntry importer.rules) := by
  rw [sentEntries_map_callOf, flatten_batchesOf]

/-- Each record is counted once, whatever the replies to the batches. -/
theorem total_statsOf :
    (importer.statsOf target calls records).total = records.length := by
  have hflat : (List.range (importer.batchCount records)).flatMap (importer.batchAt records) =
      (importer.batchesOf records).flatten := List.flatMap_def
  rw [statsOf, CallEnd.total_sum_stats, hflat, flatten_batchesOf]

/-- An import of records with more workers than permits breaks down before anything is sent. -/
theorem importAll_of_too_many
    (schedule : Schedule)
    (hworkers : permitLimit < importer.workers)
    (hrecords : records ≠ []) :
    importer.importAll target schedule calls records =
      ⟨calls, .error (.tooManyPermits importer.workers)⟩ := by
  have hsize : max importer.batchSize 1 = importer.size := rfl
  simp only [importAll, if_neg hrecords, hsize, chunksOf_size, grantPermits_max_of_lt hworkers]

/-- An import that comes to its end comes out in closed form. -/
theorem importAll_of_ok
    (hsettled : importer.Settled)
    (schedule : Schedule)
    {done : List ImportResult × Importer}
    (hdone : (importer.importAll target schedule calls records).ending = .ok done) :
    importer.importAll target schedule calls records =
      { calls := calls ++ (importer.batchesOf records).map importer.callOf
        ending := importer.settled target calls records } := by
  by_cases hrecords : records = []
  · -- without records no permits are granted, so any number of workers will do
    subst hrecords
    simp [importAll, batchesOf, settled_nil importer target hsettled]
  · refine importer.importAll_eq target hsettled schedule calls records ?_
    by_contra hworkers
    rw [importer.importAll_of_too_many target calls records schedule (Nat.lt_of_not_le hworkers)
      hrecords] at hdone
    cases hdone

end Importer

end AccountMigration
