import AccountMigration.Proofs.Import.Submitted

/-!
# Imports that follow one another

An importer keeps its counters from one import to the next, and every import starts where the
one before it has left them.  Counters without a bound never go down.

* `Importer.importEach`: lists of records imported one after the other.
* `Importer.deliveriesOf` and `Importer.deliveriesEach`: the batches of one import and of all of
  them, each with the reply to its request.
* `Importer.importEach_ending`: how all imports end, in closed form.
* `Importer.countersEach`: the counters as they are seen from the first import to the last.
* `Importer.countersEach_grow`: they never go down.
-/

namespace AccountMigration

/-- Records that are imported together, and the order in which their batches finish. -/
structure Intake where
  schedule : Schedule
  records : List SourceRecord

/-- The counters as they are seen while finished tasks are joined, before the first of them and
behind each of them. -/
def Joining.countersSeen :
    Joining → List FinishedBatch → List ImportStats
  | j, [] => [j.stats]
  | j, finished :: rest =>
      match j.join finished with
      | .error _ => [j.stats]
      | .ok next => j.stats :: countersSeen next rest

/-- Counters without a bound grow with each task that is joined, and up to what all tasks add to
them. -/
theorem Joining.countersSeen_grow
    {j : Joining}
    {ds : List Delivery}
    (h : j.Awaits ds)
    (hcounting : j.counting = .unbounded) :
    (j.countersSeen (ds.map Delivery.finish)).Pairwise (· ≤ ·) ∧
      ∀ s ∈ j.countersSeen (ds.map Delivery.finish),
        j.stats ≤ s ∧ s ≤ j.stats + (ds.map Delivery.stats).sum := by
  induction ds generalizing j with
  | nil =>
      refine ⟨List.pairwise_singleton _ _, fun s hs => ?_⟩
      obtain rfl := List.mem_singleton.mp hs
      exact ⟨le_refl _, ImportStats.le_add _ _⟩
  | cons d ds ih =>
      obtain ⟨tickets, hjoin, hothers⟩ :=
        join_finish (h.place d List.mem_cons_self) (h.ticket d List.mem_cons_self)
      rw [filed, Counting.settle_of_unbounded hcounting] at hjoin
      obtain ⟨hpairwise, hbounds⟩ := ih (h.tail hothers) hcounting
      have hstep : j.stats ≤ j.stats + d.stats := ImportStats.le_add _ _
      rw [List.map_cons, countersSeen, hjoin, List.map_cons, List.sum_cons, ← add_assoc]
      refine ⟨List.pairwise_cons.mpr ⟨fun s hs => hstep.trans (hbounds s hs).1, hpairwise⟩,
        fun s hs => ?_⟩
      rcases List.mem_cons.mp hs with rfl | hlater
      · exact ⟨le_refl _, hstep.trans (ImportStats.le_add _ _)⟩
      · exact ⟨hstep.trans (hbounds s hlater).1, (hbounds s hlater).2⟩

namespace Importer

/-- Import lists of records one after the other.  The results of all imports come in order. -/
def importEach
    (target : Target) :
    Importer → List Call → List Intake → Importing
  | importer, calls, [] => ⟨calls, .ok ([], importer)⟩
  | importer, calls, intake :: rest =>
      let first := importer.importAll target intake.schedule calls intake.records
      match first.ending with
      | .error fault => ⟨first.calls, .error fault⟩
      | .ok (results, next) =>
          let others := importEach target next first.calls rest
          ⟨others.calls, others.ending.map fun done => (results ++ done.1, done.2)⟩

/-- The counters as they are seen during one import. -/
def countersDuring
    (importer : Importer)
    (target : Target)
    (calls : List Call)
    (intake : Intake) : List ImportStats :=
  let batches := importer.batchesOf intake.records
  let start : Joining :=
    { counting := importer.counting
      stats := importer.stats
      slots := List.replicate batches.length none
      tickets := ticketsOf 0 batches }
  start.countersSeen (intake.schedule.arrange (importer.submit target calls 0 batches))

/-- The counters as they are seen from the first import to the last. -/
def countersEach
    (target : Target) :
    Importer → List Call → List Intake → List ImportStats
  | importer, _, [] => [importer.stats]
  | importer, calls, intake :: rest =>
      let first := importer.importAll target intake.schedule calls intake.records
      importer.countersDuring target calls intake ++
        match first.ending with
        | .error _ => []
        | .ok (_, next) => countersEach target next first.calls rest

/-- The batches of an import, each with the reply to its request. -/
def deliveriesOf
    (importer : Importer)
    (target : Target)
    (calls : List Call)
    (records : List SourceRecord) : List Delivery :=
  (List.range (importer.batchCount records)).map fun k =>
    ⟨k, importer.batchAt records k, importer.replyTo target calls records k⟩

/-- The batches of imports that follow one another, each with the reply to its request. -/
def deliveriesEach
    (importer : Importer)
    (target : Target) :
    List Call → List Intake → List Delivery
  | _, [] => []
  | calls, intake :: rest =>
      importer.deliveriesOf target calls intake.records ++
        deliveriesEach importer target
          (calls ++ (importer.batchesOf intake.records).map importer.callOf) rest

variable (target : Target) (calls : List Call)

theorem settled_of_unbounded
    (importer : Importer)
    (hcounting : importer.counting = .unbounded) :
    importer.Settled := by
  exact Counting.settle_of_unbounded hcounting _

theorem resultsOf_eq_flatMap
    (importer : Importer)
    (records : List SourceRecord) :
    importer.resultsOf target calls records =
      (importer.deliveriesOf target calls records).flatMap Delivery.results := by
  rw [deliveriesOf, List.flatMap_map]
  rfl

theorem statsOf_eq_sum
    (importer : Importer)
    (records : List SourceRecord) :
    importer.statsOf target calls records =
      ((importer.deliveriesOf target calls records).map Delivery.stats).sum := by
  rw [deliveriesOf, List.map_map]
  rfl

/-- The counters of an importer do not show in what it submits. -/
theorem deliveriesEach_with_stats
    (importer : Importer)
    (stats : ImportStats)
    (intakes : List Intake) :
    deliveriesEach { importer with stats } target calls intakes =
      importer.deliveriesEach target calls intakes := by
  induction intakes generalizing calls with
  | nil =>
      rfl
  | cons intake rest ih =>
      rw [deliveriesEach, deliveriesEach]
      exact congrArg _ (ih _)

/-- How imports that follow one another end: with what the replies to all batches mean, unless the
counters cannot take it. -/
theorem importEach_ending
    (importer : Importer)
    (hsettled : importer.Settled)
    (intakes : List Intake)
    (hworkers : importer.workers ≤ permitLimit) :
    (importEach target importer calls intakes).ending =
      (importer.counting.settle (importer.stats +
        ((importer.deliveriesEach target calls intakes).map Delivery.stats).sum)).map
          fun stats =>
            ((importer.deliveriesEach target calls intakes).flatMap Delivery.results,
              { importer with stats }) := by
  induction intakes generalizing importer calls with
  | nil =>
      have hstart : importer.counting.settle importer.stats = .ok importer.stats := hsettled
      simp [importEach, deliveriesEach, hstart, Except.map]
  | cons intake rest ih =>
      have hparts := importer.counting.settle_bind_add
        (importer.stats + importer.statsOf target calls intake.records)
        (((importer.deliveriesEach target
          (calls ++ (importer.batchesOf intake.records).map importer.callOf) rest).map
            Delivery.stats).sum)
      rw [importEach,
        importAll_eq importer target hsettled intake.schedule calls intake.records hworkers]
      simp only [deliveriesEach, List.map_append, List.sum_append, List.flatMap_append,
        ← resultsOf_eq_flatMap, ← statsOf_eq_sum, ← add_assoc, ← hparts, settled]
      cases hfirst : importer.counting.settle
          (importer.stats + importer.statsOf target calls intake.records) with
      | error fault =>
          rfl
      | ok stats =>
          have hrest := ih (calls ++ (importer.batchesOf intake.records).map importer.callOf)
            { importer with stats } (importer.counting.settle_of_settle hfirst) hworkers
          rw [deliveriesEach_with_stats] at hrest
          simp only [Except.map, Except.bind] at hrest ⊢
          rw [hrest]
          cases importer.counting.settle (stats + _) <;> rfl

/-- During an import counters without a bound grow, up to those behind it. -/
theorem countersDuring_grow
    (importer : Importer)
    (hcounting : importer.counting = .unbounded)
    (intake : Intake) :
    (importer.countersDuring target calls intake).Pairwise (· ≤ ·) ∧
      ∀ s ∈ importer.countersDuring target calls intake,
        importer.stats ≤ s ∧
          s ≤ importer.stats + importer.statsOf target calls intake.records := by
  let batches := importer.batchesOf intake.records
  have hds := intake.schedule.arrange_perm (importer.deliveries target calls 0 batches)
  have hgrow :=
    Joining.countersSeen_grow (importer.awaits_deliveries target calls batches hds) hcounting
  rw [← Schedule.arrange_map, ← submit_eq, (hds.map Delivery.stats).sum_eq] at hgrow
  have hsum : ((importer.deliveries target calls 0 batches).map Delivery.stats).sum =
      importer.statsOf target calls intake.records := by
    rw [deliveries_batchesOf, statsOf_eq_sum]
    rfl
  rw [hsum] at hgrow
  exact hgrow

/-- Counters without a bound never go down, from the first import to the last and while batches are
joined, and in the end they have grown by what all batches add to them. -/
theorem countersEach_grow
    (importer : Importer)
    (hcounting : importer.counting = .unbounded)
    (intakes : List Intake)
    (hworkers : importer.workers ≤ permitLimit) :
    (countersEach target importer calls intakes).Pairwise (· ≤ ·) ∧
      (∀ s ∈ countersEach target importer calls intakes,
        importer.stats ≤ s ∧
          s ≤ importer.stats +
            ((importer.deliveriesEach target calls intakes).map Delivery.stats).sum) ∧
      (countersEach target importer calls intakes).getLast? =
        some (importer.stats +
          ((importer.deliveriesEach target calls intakes).map Delivery.stats).sum) := by
  induction intakes generalizing importer calls with
  | nil =>
      simp [countersEach, deliveriesEach]
  | cons intake rest ih =>
      let next : Importer :=
        { importer with stats := importer.stats + importer.statsOf target calls intake.records }
      obtain ⟨hpairwise, hlater, hlast⟩ :=
        ih (calls ++ (importer.batchesOf intake.records).map importer.callOf) next hcounting
          hworkers
      obtain ⟨hduring, hbounds⟩ := importer.countersDuring_grow target calls hcounting intake
      have hcons : countersEach target importer calls (intake :: rest) =
          importer.countersDuring target calls intake ++ countersEach target next
            (calls ++ (importer.batchesOf intake.records).map importer.callOf) rest := by
        rw [countersEach, importAll_eq importer target (importer.settled_of_unbounded hcounting)
          intake.schedule calls intake.records hworkers,
          settled_of_settle importer target (Counting.settle_of_unbounded hcounting _)]
      rw [deliveriesEach_with_stats] at hlater hlast
      rw [hcons, deliveriesEach, List.map_append, List.sum_append, ← statsOf_eq_sum, ← add_assoc]
      refine ⟨List.pairwise_append.mpr ⟨hduring, hpairwise, fun s hs t ht => ?_⟩,
        fun s hs => ?_, ?_⟩
      · exact (hbounds s hs).2.trans (hlater t ht).1
      · rcases List.mem_append.mp hs with hs | hs
        · exact ⟨(hbounds s hs).1, (hbounds s hs).2.trans (ImportStats.le_add _ _)⟩
        · exact ⟨(ImportStats.le_add _ _).trans (hlater s hs).1, (hlater s hs).2⟩
      · rw [List.getLast?_append, hlast, Option.some_or]

end Importer

end AccountMigration
