import AccountMigration.Proofs.Import.Chunks
import AccountMigration.Proofs.Import.Joining

/-!
# An import is the sequence of its batches

The tasks of an import run side by side, but what comes out is what would come out if the
batches were submitted one after the other.

* `Importer.replyTo`: the reply to each batch, which decides everything about the batch.
* `Importer.inSequence`: the batches one after the other.
* `Importer.importAll_eq`: the outcome of an import in closed form.
* `Importer.importAll_eq_inSequence`: an import is the sequence of its batches, for every
  order of completion, and a batch is not changed by what becomes of the others.
-/

namespace AccountMigration

/-- The results of a batch by the way its task ended, with what is said about a task that broke
down. -/
def BatchEnd.results
    (batch : List SourceRecord)
    (words : Option String) :
    BatchEnd → List ImportResult
  | .accepted outcome => outcome.results
  | .rejected error => error.results
  | .crashed => batch.map fun r => .failed (Joining.crashNote words) r.id

/-- What a batch adds to the counters by the way its task ended. -/
def BatchEnd.stats
    (batch : List SourceRecord) :
    BatchEnd → ImportStats
  | .accepted outcome => outcome.stats
  | .rejected error => error.stats
  | .crashed => .ofFailure batch.length

@[simp] theorem BatchEnd.results_ofCall
    (index : Nat)
    (batch : List SourceRecord)
    (e : CallEnd ImportResponse) :
    (BatchEnd.ofCall index batch e).results batch e.words = e.results batch := by
  obtain ⟨reply, words⟩ := e
  cases reply <;>
    simp [BatchEnd.ofCall, BatchEnd.results, CallEnd.results, BatchError.results,
      BatchError.ofBatch, Function.comp_def]

@[simp] theorem BatchEnd.stats_ofCall
    (index : Nat)
    (batch : List SourceRecord)
    (e : CallEnd ImportResponse) :
    (BatchEnd.ofCall index batch e).stats batch = e.stats batch := by
  obtain ⟨reply, words⟩ := e
  cases reply <;>
    simp [BatchEnd.ofCall, BatchEnd.stats, CallEnd.stats, BatchError.stats, BatchError.ofBatch]

namespace Importer

/-- The size of batches, where zero counts as one. -/
def size
    (importer : Importer) : Nat :=
  max importer.batchSize 1

/-- The number of batches of records. -/
def batchCount
    (importer : Importer)
    (records : List SourceRecord) : Nat :=
  sliceCount importer.size records

/-- The records of a batch. -/
def batchAt
    (importer : Importer)
    (records : List SourceRecord)
    (k : Nat) : List SourceRecord :=
  sliceAt importer.size records k

/-- The batches of records in order. -/
def batchesOf
    (importer : Importer)
    (records : List SourceRecord) : List (List SourceRecord) :=
  (List.range (importer.batchCount records)).map (importer.batchAt records)

/-- The reply to a batch with its words.  The batch is submitted after the given calls and all
batches in front of it. -/
def replyTo
    (importer : Importer)
    (target : Target)
    (calls : List Call)
    (records : List SourceRecord)
    (k : Nat) : CallEnd ImportResponse :=
  target.callEnd
    (calls ++ (List.range k).map fun j => importer.callOf (importer.batchAt records j))
    (importer.callOf (importer.batchAt records k))

/-- Submit batches one after the other, and put what becomes of each of them behind what is
there already. -/
def inSequence
    (importer : Importer)
    (target : Target) :
    List Call → Nat → List (List SourceRecord) → List ImportResult × ImportStats →
      List ImportResult × ImportStats
  | _, _, [], done => done
  | calls, index, batch :: rest, done =>
      let ending := importBatch target importer.rules importer.onConflict calls index batch
      let words := target.words calls (importer.callOf batch)
      inSequence importer target (calls ++ [importer.callOf batch]) (index + 1) rest
        (done.1 ++ ending.results batch words, done.2 + ending.stats batch)

variable (importer : Importer) (target : Target)

/-- The sequence of batches gathers what the replies mean. -/
theorem inSequence_eq
    (calls : List Call)
    (index : Nat)
    (batches : List (List SourceRecord))
    (done : List ImportResult × ImportStats) :
    importer.inSequence target calls index batches done =
      (done.1 ++ (importer.deliveries target calls index batches).flatMap Delivery.results,
        done.2 + ((importer.deliveries target calls index batches).map Delivery.stats).sum) := by
  induction batches generalizing calls index done with
  | nil =>
      simp [inSequence, deliveries]
  | cons batch rest ih =>
      have hresults :
          (importBatch target importer.rules importer.onConflict calls index batch).results
            batch (target.words calls (importer.callOf batch)) =
              (target.callEnd calls (importer.callOf batch)).results batch :=
        BatchEnd.results_ofCall index batch _
      have hstats :
          (importBatch target importer.rules importer.onConflict calls index batch).stats
            batch = (target.callEnd calls (importer.callOf batch)).stats batch :=
        BatchEnd.stats_ofCall index batch _
      rw [inSequence, ih, hresults, hstats, deliveries, List.flatMap_cons, List.map_cons,
        List.sum_cons, List.append_assoc, add_assoc]
      rfl

theorem exists_size_eq_succ :
    ∃ n, importer.size = n + 1 :=
  ⟨importer.size - 1, by unfold size; omega⟩

@[simp] theorem batchCount_map
    (f : SourceRecord → SourceRecord)
    (records : List SourceRecord) :
    importer.batchCount (records.map f) = importer.batchCount records :=
  sliceCount_map f importer.size records

@[simp] theorem batchAt_map
    (f : SourceRecord → SourceRecord)
    (records : List SourceRecord)
    (k : Nat) :
    importer.batchAt (records.map f) k = (importer.batchAt records k).map f :=
  sliceAt_map f importer.size records k

/-- Records that are changed one by one are cut into batches as they were. -/
theorem batchesOf_map
    (f : SourceRecord → SourceRecord)
    (records : List SourceRecord) :
    importer.batchesOf (records.map f) = (importer.batchesOf records).map (List.map f) := by
  simp [batchesOf, Function.comp_def]

/-- The batches of records are the parts of the list. -/
theorem batchesOf_eq_chunks
    {n : Nat}
    (hn : importer.size = n + 1)
    (records : List SourceRecord) :
    importer.batchesOf records = chunks n records := by
  rw [chunks_eq, batchesOf, batchCount, ← hn]
  rfl

theorem chunksOf_size
    (records : List SourceRecord) :
    chunksOf records importer.size = .ok (importer.batchesOf records) := by
  obtain ⟨n, hn⟩ := importer.exists_size_eq_succ
  rw [batchesOf_eq_chunks importer hn, hn, chunksOf]

/-- Put together again, the batches are the records. -/
theorem flatten_batchesOf
    (records : List SourceRecord) :
    (importer.batchesOf records).flatten = records := by
  obtain ⟨n, hn⟩ := importer.exists_size_eq_succ
  rw [batchesOf_eq_chunks importer hn, flatten_chunks]

@[simp] theorem batchCount_nil :
    importer.batchCount [] = 0 := by
  obtain ⟨n, hn⟩ := importer.exists_size_eq_succ
  rw [batchCount, hn, sliceCount_nil]

/-- What replies mean for the records of all batches, in the order of the records. -/
def resultsOf
    (target : Target)
    (calls : List Call)
    (records : List SourceRecord) : List ImportResult :=
  (List.range (importer.batchCount records)).flatMap fun k =>
    (importer.replyTo target calls records k).results (importer.batchAt records k)

/-- What replies add to the counters for all batches. -/
def statsOf
    (target : Target)
    (calls : List Call)
    (records : List SourceRecord) : ImportStats :=
  ((List.range (importer.batchCount records)).map fun k =>
    (importer.replyTo target calls records k).stats (importer.batchAt records k)).sum

/-- Each batch meets the reply that belongs to it. -/
theorem deliveries_batchesOf
    (calls : List Call)
    (records : List SourceRecord) :
    importer.deliveries target calls 0 (importer.batchesOf records) =
      (List.range (importer.batchCount records)).map fun k =>
        ⟨k, importer.batchAt records k, importer.replyTo target calls records k⟩ := by
  refine List.ext_getElem? fun k => ?_
  rw [getElem?_deliveries, batchesOf, List.getElem?_map, List.getElem?_map]
  rcases Nat.lt_or_ge k (importer.batchCount records) with hlt | hge
  · have hcalls : ((List.range (importer.batchCount records)).map
        (importer.batchAt records)).take k = (List.range k).map (importer.batchAt records) := by
      rw [← List.map_take, List.take_range, Nat.min_eq_left (Nat.le_of_lt hlt)]
    rw [List.getElem?_range hlt, hcalls, List.map_map]
    simp [replyTo, Function.comp_def]
  · rw [List.getElem?_eq_none (by simpa using hge)]
    rfl

/-- What the counters make of an import, with its results. -/
def settled
    (importer : Importer)
    (target : Target)
    (calls : List Call)
    (records : List SourceRecord) : Except Fault (List ImportResult × Importer) :=
  (importer.counting.settle (importer.stats + importer.statsOf target calls records)).map
    fun stats => (importer.resultsOf target calls records, { importer with stats })

theorem settled_of_settle
    {calls : List Call}
    {records : List SourceRecord}
    {stats : ImportStats}
    (hstats : importer.counting.settle (importer.stats + importer.statsOf target calls records) =
      .ok stats) :
    importer.settled target calls records =
      .ok (importer.resultsOf target calls records, { importer with stats }) := by
  rw [settled, hstats]
  rfl

theorem settled_nil
    (hsettled : importer.Settled)
    (calls : List Call) :
    importer.settled target calls [] = .ok ([], importer) := by
  have hstart : importer.counting.settle importer.stats = .ok importer.stats := hsettled
  simp [settled, statsOf, resultsOf, hstart, Except.map]

/-- The outcome of an import: what the replies to its batches mean. -/
theorem importAll_eq
    (hsettled : importer.Settled)
    (schedule : Schedule)
    (calls : List Call)
    (records : List SourceRecord)
    (hworkers : importer.workers ≤ permitLimit) :
    importer.importAll target schedule calls records =
      { calls := calls ++ (importer.batchesOf records).map importer.callOf
        ending := importer.settled target calls records } := by
  have hbatches :=
    importer.importBatches_eq target hsettled schedule calls (importer.batchesOf records)
  rw [deliveries_batchesOf, List.flatMap_map, List.map_map] at hbatches
  by_cases hrecords : records = []
  · subst hrecords
    simp [importAll, batchesOf, settled_nil importer target hsettled]
  · have hpermits : grantPermits (max importer.workers 1) = .ok () := by
      rw [grantPermits_eq_ok_iff]
      exact Nat.max_le.mpr ⟨hworkers, by decide⟩
    have hsize : max importer.batchSize 1 = importer.size := rfl
    simp only [importAll, if_neg hrecords, hsize, chunksOf_size, hpermits]
    exact hbatches

/-- When the counters can take an import, they hold what they make of the whole sum. -/
theorem eq_of_settled_ok
    {calls : List Call}
    {records : List SourceRecord}
    {done : List ImportResult × Importer}
    (hdone : importer.settled target calls records = .ok done) :
    done.1 = importer.resultsOf target calls records ∧
      ∃ stats,
        importer.counting.settle (importer.stats + importer.statsOf target calls records) =
          .ok stats ∧
        done.2 = { importer with stats } := by
  unfold settled at hdone
  cases hstats :
      importer.counting.settle (importer.stats + importer.statsOf target calls records) with
  | error fault =>
      rw [hstats] at hdone
      cases hdone
  | ok stats =>
      rw [hstats] at hdone
      obtain rfl := Except.ok.inj hdone
      exact ⟨rfl, stats, rfl, rfl⟩

/-- There is one result for each record, under its id and in its place. -/
theorem map_sourceId_resultsOf
    (calls : List Call)
    (records : List SourceRecord) :
    (importer.resultsOf target calls records).map (·.sourceId) = records.map (·.id) := by
  calc (importer.resultsOf target calls records).map (·.sourceId)
      = (List.range (importer.batchCount records)).flatMap fun k =>
          (importer.batchAt records k).map (·.id) := by
        simp only [resultsOf, List.map_flatMap, CallEnd.map_sourceId_results]
    _ = (importer.batchesOf records).flatten.map (·.id) := by
        rw [batchesOf, List.map_flatten, List.map_map, List.flatMap_def]
        rfl
    _ = records.map (·.id) := by
        rw [flatten_batchesOf]

/-- The results in the place of a batch are those of its own reply. -/
theorem sliceAt_resultsOf
    (calls : List Call)
    (records : List SourceRecord)
    {k : Nat}
    (hk : k < importer.batchCount records) :
    sliceAt importer.size (importer.resultsOf target calls records) k =
      (importer.replyTo target calls records k).results (importer.batchAt records k) := by
  obtain ⟨n, hn⟩ := importer.exists_size_eq_succ
  let pieces := (List.range (importer.batchCount records)).map fun j =>
    (importer.replyTo target calls records j).results (importer.batchAt records j)
  have hlength : pieces.map List.length = (chunks n records).map List.length := by
    rw [← batchesOf_eq_chunks importer hn, batchesOf, List.map_map, List.map_map]
    refine List.map_congr_left fun j _ => ?_
    exact CallEnd.length_results (importer.batchAt records j) _
  have hpiece : pieces[k]? = some
      ((importer.replyTo target calls records k).results (importer.batchAt records k)) := by
    rw [List.getElem?_map, List.getElem?_range hk]
    rfl
  rw [resultsOf, List.flatMap_def, hn]
  exact sliceAt_flatten hlength hpiece

/--
An import comes out as the sequence of its batches does, whatever the service replies to each
of them and in whatever order their tasks finish.  Every record has one result, under its id
and in its place; the results of a batch are those of its own reply; the counters grow by the
sum of what the batches add, which is what they hold when they have no bound or it fits; and what
becomes of the other batches, here or in another run, does not change the results of a batch. -/
theorem importAll_eq_inSequence
    (hsettled : importer.Settled)
    (schedule : Schedule)
    (calls : List Call)
    (records : List SourceRecord)
    (hworkers : importer.workers ≤ permitLimit) :
    ∃ results stats,
      importer.importAll target schedule calls records =
        ⟨calls ++ (importer.batchesOf records).map importer.callOf,
          (importer.counting.settle stats).map fun kept =>
            (results, { importer with stats := kept })⟩ ∧
      (importer.counting = .unbounded ∨ stats.Fits →
        importer.counting.settle stats = .ok stats) ∧
      (results, stats) =
        importer.inSequence target calls 0 (importer.batchesOf records)
          ([], importer.stats) ∧
      results.map (·.sourceId) = records.map (·.id) ∧
      (∀ k < importer.batchCount records,
        sliceAt importer.size results k =
          (importer.replyTo target calls records k).results (importer.batchAt records k)) ∧
      stats = importer.stats +
        ((List.range (importer.batchCount records)).map fun k =>
          (importer.replyTo target calls records k).stats (importer.batchAt records k)).sum ∧
      ∀ (other : Target) (order : Schedule) (others : List ImportResult) (after : Importer),
        (importer.importAll other order calls records).ending = .ok (others, after) →
        ∀ k < importer.batchCount records,
          importer.replyTo other calls records k = importer.replyTo target calls records k →
          sliceAt importer.size others k = sliceAt importer.size results k := by
  refine ⟨importer.resultsOf target calls records,
    importer.stats + importer.statsOf target calls records,
    importer.importAll_eq target hsettled schedule calls records hworkers, ?_, ?_,
    importer.map_sourceId_resultsOf target calls records,
    fun k hk => importer.sliceAt_resultsOf target calls records hk, rfl, ?_⟩
  · rintro (hunbounded | hfits)
    · exact Counting.settle_of_unbounded hunbounded _
    · exact importer.counting.settle_of_fits hfits
  · rw [inSequence_eq, deliveries_batchesOf, List.flatMap_map, List.map_map, List.nil_append]
    rfl
  · intro other order others after hending k hk hreply
    rw [importer.importAll_eq other hsettled order calls records hworkers] at hending
    have hothers : others = importer.resultsOf other calls records :=
      (importer.eq_of_settled_ok other hending).1
    rw [hothers, importer.sliceAt_resultsOf other calls records hk,
      importer.sliceAt_resultsOf target calls records hk, hreply]

/-- A service that accepts the first batch, refuses the second and breaks down on the third;
other calls find nothing. -/
def unsteadyTarget : Target where
  reply calls call :=
    match call with
    | .bulkImport _ =>
        match (requestsOf calls).length with
        | 0 => .answered { imported := 2, details := [{ status := "imported" }] }
        | 1 => .failed (.status 502 "bad gateway")
        | _ => .crashed
    | .countUsers => .answered (0 : UInt64)
    | .countProfiles => .answered (0 : UInt64)
    | .findUser _ => .answered none

/-- Five records in batches of two. -/
def fiveRecords : List SourceRecord :=
  ["1", "2", "3", "4", "5"].map fun id => { id }

/-- An importer for batches of two records, with counters without a bound. -/
def pairImporter : Importer where
  batchSize := 2
  workers := 4
  onConflict := .skip
  rules := {}
  counting := .unbounded

/-- Three batches with three different endings, joined from the last to the first. -/
theorem importAll_unsteady :
    pairImporter.Settled ∧
    pairImporter.workers ≤ permitLimit ∧
    ∃ results stats,
      (pairImporter.importAll unsteadyTarget .backwards [] fiveRecords).ending =
        .ok (results, { pairImporter with stats }) ∧
      results.map (·.sourceId) = ["1", "2", "3", "4", "5"] ∧
      sliceAt 2 results 0 = [⟨"1", none, .created, ""⟩, ⟨"2", none, .created, ""⟩] ∧
      sliceAt 2 results 2 = [⟨"5", none, .error, "import task failed"⟩] := by
  have hsettled : pairImporter.Settled := rfl
  have hworkers : pairImporter.workers ≤ permitLimit := by decide
  obtain ⟨results, stats, himport, hkept, -, hids, hslices, -⟩ :=
    importAll_eq_inSequence pairImporter unsteadyTarget hsettled .backwards [] fiveRecords
      hworkers
  have hstats := hkept (Or.inl rfl)
  exact ⟨hsettled, hworkers, results, stats, by rw [himport, hstats]; rfl, hids,
    hslices 0 (by decide), hslices 2 (by decide)⟩

end Importer

end AccountMigration
