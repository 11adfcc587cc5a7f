import AccountMigration.Import.Entry
import AccountMigration.Import.Stats
import AccountMigration.Service.Target

/-!
# Batches

A batch is submitted in one request.  The details of the response are paired with the
records in order; a record without a detail counts as created.  A request that fails marks
all records of its batch with the same note.

* `reconcile` pairs records with details.
* `importBatch` submits one batch.
-/

namespace AccountMigration

/-- The result of a record and the detail in its place. -/
def resultOf
    (r : SourceRecord) : Option ImportDetail → ImportResult
  | some d => ⟨r.id, d.userId, .ofWord d.status, d.reason.getD ""⟩
  | none => ⟨r.id, none, .created, ""⟩

/-- The results of a batch and the details of its response. -/
def reconcile :
    List SourceRecord → List ImportDetail → List ImportResult
  | [], _ => []
  | r :: rs, [] => resultOf r none :: reconcile rs []
  | r :: rs, d :: ds => resultOf r (some d) :: reconcile rs ds

/-- A batch that the service accepted. -/
structure BatchOutcome where
  index : Nat
  results : List ImportResult
  stats : ImportStats
  deriving DecidableEq

/-- A batch whose request failed. -/
structure BatchError where
  index : Nat
  sourceIds : List String
  note : String
  deriving DecidableEq

namespace BatchError

/-- The failure of a batch of records. -/
def ofBatch
    (index : Nat)
    (batch : List SourceRecord)
    (note : String) : BatchError :=
  ⟨index, batch.map (·.id), note⟩

/-- The wording of a failure. -/
def message
    (e : BatchError) : String :=
  "batch " ++ toString e.index ++ " (" ++ toString e.sourceIds.length ++ " records) failed: "
    ++ e.note

/-- The results of the records. -/
def results
    (e : BatchError) : List ImportResult :=
  e.sourceIds.map (ImportResult.failed e.note)

/-- What the failure adds to the counters. -/
def stats
    (e : BatchError) : ImportStats :=
  .ofFailure e.sourceIds.length

end BatchError

/-- How the task of a batch ends. -/
inductive BatchEnd where
  | accepted (outcome : BatchOutcome)
  | rejected (error : BatchError)
  | crashed
  deriving DecidableEq

/-- The request of a batch. -/
def requestOf
    (rules : EntryRules)
    (onConflict : ConflictStrategy)
    (batch : List SourceRecord) : ImportRequest :=
  ⟨batch.map (SourceRecord.toEntry rules), onConflict⟩

/-- How a batch ends by the end of the call that submits it. -/
def BatchEnd.ofCall
    (index : Nat)
    (batch : List SourceRecord)
    (e : CallEnd ImportResponse) : BatchEnd :=
  match e.reply with
  | .answered response =>
      .accepted ⟨index, reconcile batch response.details, .ofResponse batch.length response⟩
  | .failed error => .rejected (.ofBatch index batch (error.note e.words))
  | .crashed => .crashed

/-- Submit one batch after the given calls. -/
def importBatch
    (target : Target)
    (rules : EntryRules)
    (onConflict : ConflictStrategy)
    (calls : List Call)
    (index : Nat)
    (batch : List SourceRecord) : BatchEnd :=
  .ofCall index batch (target.callEnd calls (.bulkImport (requestOf rules onConflict batch)))

/-- Every record of a batch has a result. -/
theorem length_reconcile
    (batch : List SourceRecord)
    (details : List ImportDetail) :
    (reconcile batch details).length = batch.length := by
  induction batch generalizing details with
  | nil =>
      rfl
  | cons r rs ih =>
      cases details <;> simp [reconcile, ih]

end AccountMigration
