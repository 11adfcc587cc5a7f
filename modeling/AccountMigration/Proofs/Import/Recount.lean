import AccountMigration.Proofs.Import.Successive

/-!
# Two ways of counting an import

The counters of an importer take over what the service says about each batch as a whole, while a
recount goes through the results of the records.  For a batch that failed both ways agree.  For an
accepted batch they differ by as much as the counters of its response differ from what its details
say.

* `AcceptedBatch`: a batch with the response to it.
* `Delivery.stats_eq_recount`: a batch that was not accepted counts alike both ways.
* `Delivery.balance`: the two ways of counting, for any batches.
* `Importer.counters_balance_recount`: the same for imports that follow one another.
-/

namespace AccountMigration

/-- A batch that the service accepted, and its response. -/
structure AcceptedBatch where
  batch : List SourceRecord
  response : ImportResponse

namespace AcceptedBatch

/-- What the results of the batch count up to. -/
def tally
    (a : AcceptedBatch) : ImportStats :=
  .ofResults (reconcile a.batch a.response.details)

/-- What the response says about the batch as a whole: all records of the batch were submitted, and
no account counts as existing. -/
def aggregate
    (a : AcceptedBatch) : ImportStats where
  total := a.batch.length
  created := a.response.imported.toNat
  existing := 0
  skipped := a.response.skipped.toNat
  updated := a.response.updated.toNat
  errors := a.response.errors.toNat

end AcceptedBatch

namespace ImportStats

theorem sum_replicate_error
    (n : Nat) :
    (List.replicate n (ofStatus .error)).sum = ofFailure n := by
  induction n with
  | zero =>
      rfl
  | succ n ih =>
      rw [List.replicate_succ, List.sum_cons, ih]
      simp [add_def, add, ofStatus, ofFailure, Nat.add_comm]

/-- A recount has one record for each result. -/
theorem total_ofResults
    (results : List ImportResult) :
    (ofResults results).total = results.length := by
  induction results with
  | nil =>
      rfl
  | cons r rs ih =>
      rw [← List.singleton_append, ofResults_append, List.length_append, ← ih]
      have hone : (ofResults [r]).total = 1 := by
        rw [ofResults_eq_sum]
        cases hstatus : r.status <;> simp [hstatus, ofStatus]
      rw [add_def, add, hone]
      rfl

end ImportStats

namespace Delivery

/-- The batch with its response, when it was accepted. -/
def accepted?
    (d : Delivery) : Option AcceptedBatch :=
  match d.callEnd.reply with
  | .answered response => some ⟨d.batch, response⟩
  | _ => none

theorem ofResults_failed
    (batch : List SourceRecord)
    (note : String) :
    .ofFailure batch.length =
      ImportStats.ofResults (batch.map fun r => .failed note r.id) := by
  have hstatus : ∀ result ∈ batch.map fun r => ImportResult.failed note r.id,
      result.status = .error := by
    simp [ImportResult.failed]
  rw [ImportStats.ofResults_of_status hstatus, ImportStats.sum_replicate_error, List.length_map]

/-- A batch that was not accepted counts alike both ways. -/
theorem stats_eq_recount
    {d : Delivery}
    (hrefused : d.accepted? = none) :
    d.stats = .ofResults d.results := by
  obtain ⟨task, batch, reply, words⟩ := d
  cases reply with
  | answered response => cases hrefused
  | failed error => exact ofResults_failed batch (error.note words)
  | crashed => exact ofResults_failed batch (Joining.crashNote words)

/-- What batches add to the counters and what their results count up to differ by the accepted
batches only. -/
theorem balance
    (ds : List Delivery) :
    (ds.map stats).sum + ((ds.filterMap accepted?).map AcceptedBatch.tally).sum =
      .ofResults (ds.flatMap results) +
        ((ds.filterMap accepted?).map AcceptedBatch.aggregate).sum := by
  induction ds with
  | nil =>
      rfl
  | cons d ds ih =>
      rw [List.map_cons, List.sum_cons, List.flatMap_cons, ImportStats.ofResults_append]
      cases haccepted : d.accepted? with
      | none =>
          rw [List.filterMap_cons_none haccepted, stats_eq_recount haccepted, add_assoc, ih,
            add_assoc]
      | some a =>
          have hstats : d.stats = a.aggregate ∧ .ofResults d.results = a.tally := by
            obtain ⟨task, batch, reply, words⟩ := d
            cases reply with
            | answered response =>
                obtain rfl := Option.some.inj haccepted
                exact ⟨rfl, rfl⟩
            | failed error => cases haccepted
            | crashed => cases haccepted
          rw [List.filterMap_cons_some haccepted, List.map_cons, List.map_cons, List.sum_cons,
            List.sum_cons, hstats.1, hstats.2, add_add_add_comm, ih, add_comm a.aggregate,
            add_add_add_comm]

theorem existing_sum
    (ds : List Delivery) :
    ((ds.map stats).sum).existing = 0 := by
  induction ds with
  | nil =>
      rfl
  | cons d ds ih =>
      have hnone : d.stats.existing = 0 := by
        obtain ⟨task, batch, reply, words⟩ := d
        cases reply <;> rfl
      rw [List.map_cons, List.sum_cons, ImportStats.add_def, ImportStats.add, hnone, ih]

end Delivery

namespace Importer

variable (importer : Importer) (target : Target) (calls : List Call) (intakes : List Intake)

/-- The batches that were accepted among those of imports that follow one another. -/
def acceptedEach : List AcceptedBatch :=
  (importer.deliveriesEach target calls intakes).filterMap Delivery.accepted?

/-- Each record of each import is counted once and has one result. -/
theorem total_deliveriesEach :
    (((importer.deliveriesEach target calls intakes).map Delivery.stats).sum).total =
        (intakes.flatMap (·.records)).length ∧
      ((importer.deliveriesEach target calls intakes).flatMap Delivery.results).map (·.sourceId) =
        (intakes.flatMap (·.records)).map (·.id) := by
  induction intakes generalizing calls with
  | nil =>
      exact ⟨rfl, rfl⟩
  | cons intake rest ih =>
      obtain ⟨htotal, hids⟩ :=
        ih (calls ++ (importer.batchesOf intake.records).map importer.callOf)
      rw [deliveriesEach, List.map_append, List.sum_append, List.flatMap_append, List.map_append,
        List.flatMap_cons, List.length_append, List.map_append, hids, ← statsOf_eq_sum,
        ← resultsOf_eq_flatMap, map_sourceId_resultsOf, ← htotal,
        ← importer.total_statsOf target calls intake.records]
      exact ⟨rfl, rfl⟩

/--
Imports that follow one another on a new importer whose counters have no bound. The counters never
go down, not even while batches are joined; the total is the number of records and of results; no
account counts as existing; and the counters together with what the results of the accepted batches
count up to are the recount of all results together with what the responses to these batches say. So
both ways of counting agree when each response says what its details count up to, and a batch that
was not accepted always counts alike. -/
theorem counters_balance_recount
    (hcounting : importer.counting = .unbounded)
    (hworkers : importer.workers ≤ permitLimit)
    (hnew : importer.stats = {}) :
    ∃ results last,
      (importEach target importer calls intakes).ending = .ok (results, last) ∧
      (countersEach target importer calls intakes).Pairwise (· ≤ ·) ∧
      (countersEach target importer calls intakes).getLast? = some last.stats ∧
      (∀ seen ∈ countersEach target importer calls intakes, seen.existing = 0) ∧
      results.map (·.sourceId) = (intakes.flatMap (·.records)).map (·.id) ∧
      last.stats.total = (intakes.flatMap (·.records)).length ∧
      (ImportStats.ofResults results).total = last.stats.total ∧
      last.stats + ((importer.acceptedEach target calls intakes).map AcceptedBatch.tally).sum =
        .ofResults results +
          ((importer.acceptedEach target calls intakes).map AcceptedBatch.aggregate).sum ∧
      ((∀ a ∈ importer.acceptedEach target calls intakes, a.aggregate = a.tally) →
        last.stats = .ofResults results) ∧
      results = (importer.deliveriesEach target calls intakes).flatMap Delivery.results ∧
      last.stats = ((importer.deliveriesEach target calls intakes).map Delivery.stats).sum ∧
      ∀ d ∈ importer.deliveriesEach target calls intakes,
        d.accepted? = none → d.stats = .ofResults d.results := by
  have heach := importEach_ending target calls importer (importer.settled_of_unbounded hcounting)
    intakes hworkers
  obtain ⟨hpairwise, hbounds, hlast⟩ :=
    countersEach_grow target calls importer hcounting intakes hworkers
  obtain ⟨htotal, hids⟩ := importer.total_deliveriesEach target calls intakes
  have hbalance := Delivery.balance (importer.deliveriesEach target calls intakes)
  have hzero : ∀ s : ImportStats, importer.stats + s = s := fun s => hnew ▸ zero_add s
  rw [Counting.settle_of_unbounded hcounting] at heach
  simp only [hzero] at heach hbounds hlast
  refine ⟨_, _, heach, hpairwise, hlast, ?_, hids, htotal, ?_, hbalance,
    ?_, rfl, rfl, fun d _ hrefused => Delivery.stats_eq_recount hrefused⟩
  · intro seen hseen
    have hmost := (hbounds seen hseen).2.existing
    rw [Delivery.existing_sum] at hmost
    exact Nat.le_zero.mp hmost
  · rw [ImportStats.total_ofResults, htotal, ← List.length_map (f := (·.sourceId)), hids,
      List.length_map]
  · intro hagree
    have hsums : (importer.acceptedEach target calls intakes).map AcceptedBatch.aggregate =
        (importer.acceptedEach target calls intakes).map AcceptedBatch.tally :=
      List.map_congr_left hagree
    rw [acceptedEach] at hsums
    rw [hsums] at hbalance
    exact add_right_cancel hbalance

/-- Two imports of five records, whose batches finish in opposite orders. -/
def twoIntakes : List Intake :=
  [⟨.backwards, fiveRecords⟩, ⟨.inOrder, fiveRecords⟩]

/-- Of six batches only the first is accepted, with a response that says what its details count up
to; so both ways of counting agree. -/
theorem counters_twoIntakes :
    pairImporter.counting = .unbounded ∧
    pairImporter.workers ≤ permitLimit ∧
    pairImporter.stats = {} ∧
    (∀ a ∈ pairImporter.acceptedEach unsteadyTarget [] twoIntakes, a.aggregate = a.tally) ∧
    ∃ results last,
      (importEach unsteadyTarget pairImporter [] twoIntakes).ending = .ok (results, last) ∧
      last.stats = { total := 10, created := 2, errors := 8 } ∧
      .ofResults results = last.stats := by
  have hworkers : pairImporter.workers ≤ permitLimit := by decide
  have hagree : ∀ a ∈ pairImporter.acceptedEach unsteadyTarget [] twoIntakes,
      a.aggregate = a.tally := by
    decide +kernel
  obtain ⟨results, last, hending, -, -, -, -, -, -, -, hrecount, -, hstats, -⟩ :=
    counters_balance_recount pairImporter unsteadyTarget [] twoIntakes rfl hworkers rfl
  exact ⟨rfl, hworkers, rfl, hagree, results, last, hending, by rw [hstats]; rfl,
    (hrecount hagree).symm⟩

end Importer

end AccountMigration
