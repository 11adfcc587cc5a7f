import AccountMigration.Import.Batch
import AccountMigration.Import.Counting
import AccountMigration.Schedule

/-!
# Importing records in batches

Records are cut into batches, each batch is submitted by a task of its own, and the tasks
finish in any order.  A finished task fills the place of its batch, so the results come out
in the order of the records.  A task that breaks down is traced back to its batch by a
ticket, and all records of the batch count as failed.  What a batch adds to the counters is added
when its task is joined, and the import breaks down when the counters cannot take it; by then the
batches are taken to be submitted.

* `Importer` holds the settings of an import and the counters so far.
* `Joining` is what is known after a part of the tasks; `Joining.join` takes one.
* `Importer.importAll` imports a list of records.
-/

namespace AccountMigration

/-- Cut a list into parts of `n + 1` elements; the last part may be shorter. -/
def chunks
    {α : Type}
    (n : Nat)
    (xs : List α) : List (List α) :=
  if h : xs = [] then []
  else xs.take (n + 1) :: chunks n (xs.drop (n + 1))
termination_by xs.length
decreasing_by
  have := List.length_pos_iff.mpr h
  simp
  omega

/-- Cut a list into parts of a size, which must not be zero. -/
def chunksOf
    {α : Type}
    (xs : List α) : Nat → Except Fault (List (List α))
  | 0 => .error .emptyBatches
  | n + 1 => .ok (chunks n xs)

/-- An import: its settings, and the counters so far. -/
structure Importer where
  batchSize : Nat
  workers : Nat
  onConflict : ConflictStrategy
  rules : EntryRules
  stats : ImportStats := {}
  counting : Counting := .wrapping
  deriving DecidableEq

/-- The batch that a task works on, and the ids of its records. -/
structure Ticket where
  index : Nat
  sourceIds : List String
  deriving DecidableEq

/-- A task that has come to its end; tasks are numbered. -/
structure FinishedBatch where
  task : Nat
  ending : BatchEnd
  /-- What is said about a task that broke down. -/
  words : Option String
  deriving DecidableEq

/-- What is known after a part of the tasks. -/
structure Joining where
  counting : Counting
  stats : ImportStats
  /-- The results of each batch, as far as its task has finished. -/
  slots : List (Option (List ImportResult))
  /-- The tickets of the tasks, by task number. -/
  tickets : List (Nat × Ticket)
  deriving DecidableEq

namespace Joining

/-- What is noted beside the records of a batch whose task broke down. -/
def crashNote
    (words : Option String) : String :=
  because "import task failed" words

/-- Add the counters of a batch and put its results into its place. -/
def file
    (j : Joining)
    (index : Nat)
    (results : List ImportResult)
    (stats : ImportStats) : Except Fault Joining :=
  match j.counting.settle (j.stats + stats) with
  | .error fault => .error fault
  | .ok stats =>
      if index < j.slots.length then
        .ok { j with stats, slots := j.slots.set index (some results) }
      else .error (.batchOutOfRange index)

/-- Take one finished task.  A broken task without a ticket is passed over. -/
def join
    (j : Joining)
    (finished : FinishedBatch) : Except Fault Joining :=
  match finished.ending with
  | .accepted outcome => j.file outcome.index outcome.results outcome.stats
  | .rejected error => j.file error.index error.results error.stats
  | .crashed =>
      match j.tickets.lookup finished.task with
      | none => .ok j
      | some ticket =>
          let error : BatchError := ⟨ticket.index, ticket.sourceIds, crashNote finished.words⟩
          { j with tickets := j.tickets.filter fun entry => entry.1 ≠ finished.task }.file
            error.index error.results error.stats

/-- Take finished tasks one by one. -/
def joinAll :
    Joining → List FinishedBatch → Except Fault Joining
  | j, [] => .ok j
  | j, finished :: rest =>
      match j.join finished with
      | .error fault => .error fault
      | .ok next => joinAll next rest

/-- The results of all batches in order. -/
def results
    (j : Joining) : List ImportResult :=
  j.slots.flatMap fun slot => slot.getD []

end Joining

/-- What an import does: the calls so far, and the results with the importer afterwards. -/
structure Importing where
  calls : List Call
  ending : Except Fault (List ImportResult × Importer)

namespace Importer

/-- A new importer, which has counted nothing yet. -/
def ofSettings
    (s : Settings)
    (counting : Counting := .wrapping) : Importer where
  batchSize := s.batchSize
  workers := s.workers
  onConflict := s.onConflict
  rules := s.entries
  counting := counting

/-- The call that submits a batch. -/
def callOf
    (importer : Importer)
    (batch : List SourceRecord) : Call :=
  .bulkImport (requestOf importer.rules importer.onConflict batch)

/-- Submit batches in order; the first of them has the given number. -/
def submit
    (importer : Importer)
    (target : Target) :
    List Call → Nat → List (List SourceRecord) → List FinishedBatch
  | _, _, [] => []
  | calls, index, batch :: rest =>
      { task := index
        ending := importBatch target importer.rules importer.onConflict calls index batch
        words := target.words calls (importer.callOf batch) }
        :: submit importer target (calls ++ [importer.callOf batch]) (index + 1) rest

/-- The tickets of batches; the first of them has the given number. -/
def ticketsOf :
    Nat → List (List SourceRecord) → List (Nat × Ticket)
  | _, [] => []
  | index, batch :: rest =>
      (index, ⟨index, batch.map (·.id)⟩) :: ticketsOf (index + 1) rest

/-- Submit the given batches and join their tasks. -/
def importBatches
    (importer : Importer)
    (target : Target)
    (schedule : Schedule)
    (calls : List Call)
    (batches : List (List SourceRecord)) : Importing :=
  let finished := schedule.arrange (importer.submit target calls 0 batches)
  let start : Joining :=
    { counting := importer.counting
      stats := importer.stats
      slots := List.replicate batches.length none
      tickets := ticketsOf 0 batches }
  { calls := calls ++ batches.map importer.callOf
    ending := (start.joinAll finished).map fun j =>
      (j.results, { importer with stats := j.stats }) }

/--
Import records after the given calls.  A batch size or a number of workers of zero counts as
one.  Without records nothing is sent. -/
def importAll
    (importer : Importer)
    (target : Target)
    (schedule : Schedule)
    (calls : List Call)
    (records : List SourceRecord) : Importing :=
  if records = [] then ⟨calls, .ok ([], importer)⟩
  else
    match chunksOf records (max importer.batchSize 1) with
    | .error fault => ⟨calls, .error fault⟩
    | .ok batches =>
        match grantPermits (max importer.workers 1) with
        | .error fault => ⟨calls, .error fault⟩
        | .ok () => importer.importBatches target schedule calls batches

end Importer

end AccountMigration
