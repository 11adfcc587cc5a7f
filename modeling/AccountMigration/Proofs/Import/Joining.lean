import AccountMigration.Import.Importer
import AccountMigration.Proofs.Import.Counters
import AccountMigration.Proofs.Places

/-!
# Joining finished batches

Each batch is submitted once and has one reply, and the reply alone says what becomes of its
records and what is added to the counters.  Tasks are joined in the order in which they
finish; what is known afterwards is the same for every order.  So is whether the counters can take
what is added to them, since it depends on the whole sum.

* `CallEnd.results` and `CallEnd.stats`: what the reply to a batch means.
* `Delivery`: a batch with the number of its task and the end of its call.
* `Joining.Awaits`: the invariant of the loop over finished tasks.
* `Joining.join_finish` is the step, `Joining.joinAll_finish` the run.
* `Importer.importBatches_eq`: the outcome of all batches, for every order of completion.
-/

namespace AccountMigration

namespace CallEnd

/-- The results of a batch, by the end of the call that submitted it. -/
def results
    (batch : List SourceRecord)
    (e : CallEnd ImportResponse) : List ImportResult :=
  match e.reply with
  | .answered response => reconcile batch response.details
  | .failed error => batch.map fun r => .failed (error.note e.words) r.id
  | .crashed => batch.map fun r => .failed (Joining.crashNote e.words) r.id

/-- What a batch adds to the counters, by the end of the call that submitted it. -/
def stats
    (batch : List SourceRecord)
    (e : CallEnd ImportResponse) : ImportStats :=
  match e.reply with
  | .answered response => .ofResponse batch.length response
  | .failed _ => .ofFailure batch.length
  | .crashed => .ofFailure batch.length

end CallEnd

theorem map_sourceId_reconcile
    (batch : List SourceRecord)
    (details : List ImportDetail) :
    (reconcile batch details).map (·.sourceId) = batch.map (·.id) := by
  induction batch generalizing details with
  | nil =>
      rfl
  | cons r rs ih =>
      cases details <;> simp [reconcile, resultOf, ih]

theorem CallEnd.map_sourceId_results
    (batch : List SourceRecord)
    (e : CallEnd ImportResponse) :
    (e.results batch).map (·.sourceId) = batch.map (·.id) := by
  obtain ⟨reply, words⟩ := e
  cases reply with
  | answered response =>
      exact map_sourceId_reconcile batch response.details
  | failed error =>
      simp [results, ImportResult.failed]
  | crashed =>
      simp [results, ImportResult.failed]

@[simp] theorem CallEnd.length_results
    (batch : List SourceRecord)
    (e : CallEnd ImportResponse) :
    (e.results batch).length = batch.length := by
  have h := congrArg List.length (e.map_sourceId_results batch)
  simpa using h

/-- What a batch adds to the counters depends only on how many records it has. -/
theorem CallEnd.stats_map
    (f : SourceRecord → SourceRecord)
    (batch : List SourceRecord)
    (e : CallEnd ImportResponse) :
    e.stats (batch.map f) = e.stats batch := by
  obtain ⟨reply, words⟩ := e
  cases reply <;> simp [stats]

/-- A batch, the number of its task, and the end of the call that submitted it. -/
structure Delivery where
  task : Nat
  batch : List SourceRecord
  callEnd : CallEnd ImportResponse

namespace Delivery

/-- The task of the batch at its end. -/
def finish
    (d : Delivery) : FinishedBatch :=
  ⟨d.task, .ofCall d.task d.batch d.callEnd, d.callEnd.words⟩

/-- The ticket of the batch. -/
def ticket
    (d : Delivery) : Ticket :=
  ⟨d.task, d.batch.map (·.id)⟩

/-- The results of the batch. -/
def results
    (d : Delivery) : List ImportResult :=
  d.callEnd.results d.batch

/-- What the batch adds to the counters. -/
def stats
    (d : Delivery) : ImportStats :=
  d.callEnd.stats d.batch

/-- The place of the batch and what is put there. -/
def write
    (d : Delivery) : Nat × Option (List ImportResult) :=
  (d.task, some d.results)

end Delivery

namespace Joining

/-- The state of the loop while some batches are still to be joined: each of them has a place
of its own and a ticket that leads back to it. -/
structure Awaits
    (j : Joining)
    (ds : List Delivery) : Prop where
  nodup : (ds.map (·.task)).Nodup
  place : ∀ d ∈ ds, d.task < j.slots.length
  ticket : ∀ d ∈ ds, j.tickets.lookup d.task = some d.ticket

/-- What is known after a batch whose results have a place, unless the counters cannot take it. -/
def filed
    (j : Joining)
    (index : Nat)
    (results : List ImportResult)
    (stats : ImportStats)
    (tickets : List (Nat × Ticket)) : Except Fault Joining :=
  (j.counting.settle (j.stats + stats)).map fun stats =>
    ⟨j.counting, stats, j.slots.set index (some results), tickets⟩

theorem file_eq_filed
    {j : Joining}
    {index : Nat}
    (hlt : index < j.slots.length)
    (results : List ImportResult)
    (stats : ImportStats) :
    j.file index results stats = j.filed index results stats j.tickets := by
  unfold file filed
  cases j.counting.settle (j.stats + stats) with
  | error fault =>
      rfl
  | ok stats =>
      exact if_pos hlt

theorem lookup_filter_of_ne
    (tickets : List (Nat × Ticket))
    {task other : Nat}
    (hne : other ≠ task) :
    (tickets.filter fun entry => entry.1 ≠ task).lookup other = tickets.lookup other := by
  induction tickets with
  | nil =>
      rfl
  | cons entry tickets ih =>
      obtain ⟨number, ticket⟩ := entry
      by_cases hnumber : number = task
      · have hother : (other == number) = false := by
          simpa [hnumber] using hne
        rw [List.filter_cons_of_neg (by simpa using hnumber), List.lookup_cons, hother]
        exact ih
      · rw [List.filter_cons_of_pos (by simpa using hnumber), List.lookup_cons,
          List.lookup_cons, ih]

/-- A task that broke down is traced back to its batch by its ticket. -/
theorem join_crashed
    {j : Joining}
    {task : Nat}
    {ticket : Ticket}
    (hticket : j.tickets.lookup task = some ticket)
    (hplace : ticket.index < j.slots.length)
    (words : Option String) :
    j.join ⟨task, .crashed, words⟩ =
      j.filed ticket.index (ticket.sourceIds.map (.failed (crashNote words)))
        (.ofFailure ticket.sourceIds.length) (j.tickets.filter fun entry => entry.1 ≠ task) := by
  let untracked : Joining := { j with tickets := j.tickets.filter fun entry => entry.1 ≠ task }
  have hfile := file_eq_filed (j := untracked) hplace
    (ticket.sourceIds.map (.failed (crashNote words))) (.ofFailure ticket.sourceIds.length)
  simp only [join, hticket]
  exact hfile

/-- One finished batch fills its own place and adds its own counters, however it ended, and
leaves the tickets of the other tasks where they are. -/
theorem join_finish
    {j : Joining}
    {d : Delivery}
    (hplace : d.task < j.slots.length)
    (hticket : j.tickets.lookup d.task = some d.ticket) :
    ∃ tickets,
      j.join d.finish = j.filed d.task d.results d.stats tickets ∧
      ∀ other, other ≠ d.task → tickets.lookup other = j.tickets.lookup other := by
  obtain ⟨task, batch, reply, words⟩ := d
  change j.tickets.lookup task = some ⟨task, batch.map (·.id)⟩ at hticket
  cases reply with
  | answered response =>
      exact ⟨j.tickets, file_eq_filed hplace _ _, fun _ _ => rfl⟩
  | failed error =>
      refine ⟨j.tickets, ?_, fun _ _ => rfl⟩
      have hfile := file_eq_filed hplace (batch.map fun r => .failed (error.note words) r.id)
        (.ofFailure batch.length)
      simpa [join, Delivery.finish, BatchEnd.ofCall, BatchError.ofBatch, BatchError.results,
        BatchError.stats, Delivery.results, Delivery.stats, CallEnd.results, CallEnd.stats,
        Function.comp_def] using hfile
  | crashed =>
      refine ⟨j.tickets.filter fun entry => entry.1 ≠ task, ?_,
        fun other hne => lookup_filter_of_ne j.tickets hne⟩
      have hfile := join_crashed hticket hplace words
      simpa [Delivery.finish, BatchEnd.ofCall, Delivery.results, Delivery.stats,
        CallEnd.results, CallEnd.stats, Function.comp_def] using hfile

/-- After one finished batch the others are still awaited. -/
theorem Awaits.tail
    {j : Joining}
    {d : Delivery}
    {ds : List Delivery}
    (h : j.Awaits (d :: ds))
    {stats : ImportStats}
    {results : List ImportResult}
    {tickets : List (Nat × Ticket)}
    (htickets : ∀ other, other ≠ d.task → tickets.lookup other = j.tickets.lookup other) :
    Awaits ⟨j.counting, stats, j.slots.set d.task (some results), tickets⟩ ds := by
  have hnodup := List.nodup_cons.mp (List.map_cons ▸ h.nodup)
  refine ⟨hnodup.2, ?_, ?_⟩
  · intro e he
    rw [List.length_set]
    exact h.place e (List.mem_cons_of_mem d he)
  · intro e he
    have hne : e.task ≠ d.task := by
      intro heq
      exact hnodup.1 (heq ▸ List.mem_map_of_mem he)
    rw [htickets e.task hne]
    exact h.ticket e (List.mem_cons_of_mem d he)

/-- All finished batches fill their places and add their counters, unless the counters cannot take
the sum. -/
theorem joinAll_finish
    {j : Joining}
    {ds : List Delivery}
    (h : j.Awaits ds)
    (hsettled : j.counting.settle j.stats = .ok j.stats) :
    ∃ tickets,
      j.joinAll (ds.map Delivery.finish) =
        (j.counting.settle (j.stats + (ds.map Delivery.stats).sum)).map fun stats =>
          ⟨j.counting, stats, writeAll j.slots (ds.map Delivery.write), tickets⟩ := by
  induction ds generalizing j with
  | nil =>
      refine ⟨j.tickets, ?_⟩
      simp only [List.map_nil, List.sum_nil, add_zero, hsettled]
      rfl
  | cons d ds ih =>
      obtain ⟨tickets, hjoin, hothers⟩ :=
        join_finish (h.place d List.mem_cons_self) (h.ticket d List.mem_cons_self)
      have hparts :=
        j.counting.settle_bind_add (j.stats + d.stats) (ds.map Delivery.stats).sum
      simp only [List.map_cons, List.sum_cons, joinAll, hjoin, filed, ← add_assoc, ← hparts]
      cases hfirst : j.counting.settle (j.stats + d.stats) with
      | error fault =>
          exact ⟨tickets, rfl⟩
      | ok stats =>
          exact ih (h.tail hothers) (j.counting.settle_of_settle hfirst)

end Joining

namespace Importer

/-- The batches with their replies, when they are submitted after the given calls; the first
of them has the given number. -/
def deliveries
    (importer : Importer)
    (target : Target) :
    List Call → Nat → List (List SourceRecord) → List Delivery
  | _, _, [] => []
  | calls, task, batch :: rest =>
      ⟨task, batch, target.callEnd calls (importer.callOf batch)⟩
        :: deliveries importer target (calls ++ [importer.callOf batch]) (task + 1) rest

variable (importer : Importer) (target : Target)

theorem submit_eq
    (calls : List Call)
    (task : Nat)
    (batches : List (List SourceRecord)) :
    importer.submit target calls task batches =
      (importer.deliveries target calls task batches).map Delivery.finish := by
  induction batches generalizing calls task with
  | nil =>
      rfl
  | cons batch rest ih =>
      rw [submit, deliveries, List.map_cons, ih]
      rfl

theorem ticketsOf_eq
    (calls : List Call)
    (task : Nat)
    (batches : List (List SourceRecord)) :
    ticketsOf task batches =
      (importer.deliveries target calls task batches).map fun d => (d.task, d.ticket) := by
  induction batches generalizing calls task with
  | nil =>
      rfl
  | cons batch rest ih =>
      rw [ticketsOf, deliveries, List.map_cons, ih (calls ++ [importer.callOf batch])]
      rfl

/-- Each batch is submitted once, after all batches in front of it. -/
theorem getElem?_deliveries
    (calls : List Call)
    (task : Nat)
    (batches : List (List SourceRecord))
    (k : Nat) :
    (importer.deliveries target calls task batches)[k]? =
      batches[k]?.map fun batch =>
        ⟨task + k, batch,
          target.callEnd (calls ++ (batches.take k).map importer.callOf)
            (importer.callOf batch)⟩ := by
  induction batches generalizing calls task k with
  | nil =>
      rfl
  | cons batch rest ih =>
      cases k with
      | zero =>
          simp [deliveries]
      | succ k =>
          simp [deliveries, ih, Nat.add_assoc, Nat.add_comm 1 k]

@[simp] theorem map_task_deliveries
    (calls : List Call)
    (task : Nat)
    (batches : List (List SourceRecord)) :
    (importer.deliveries target calls task batches).map (·.task) =
      List.range' task batches.length := by
  induction batches generalizing calls task with
  | nil =>
      rfl
  | cons batch rest ih =>
      rw [deliveries, List.map_cons, ih, List.length_cons, List.range'_succ]

/-- When the batches start, all of them are awaited, in whatever order they will finish. -/
theorem awaits_deliveries
    (calls : List Call)
    (batches : List (List SourceRecord))
    {ds : List Delivery}
    (hds : ds.Perm (importer.deliveries target calls 0 batches)) :
    Joining.Awaits
      ⟨importer.counting, importer.stats, List.replicate batches.length none,
        ticketsOf 0 batches⟩ ds := by
  have htasks : ((importer.deliveries target calls 0 batches).map (·.task)).Nodup := by
    rw [map_task_deliveries]
    exact List.nodup_range'
  refine ⟨(hds.map _).nodup_iff.mpr htasks, ?_, ?_⟩
  · intro d hd
    have hmem := List.mem_map_of_mem (f := (·.task)) (hds.mem_iff.mp hd)
    rw [map_task_deliveries, List.mem_range'_1] at hmem
    simpa using hmem.2
  · intro d hd
    rw [importer.ticketsOf_eq target calls]
    exact lookup_map_of_mem _ _ htasks (hds.mem_iff.mp hd)

/-- Batches that are joined in order fill the places behind those that are filled already. -/
theorem writeAll_deliveries
    (calls : List Call)
    (filled : List (Option (List ImportResult)))
    (batches : List (List SourceRecord)) :
    writeAll (filled ++ List.replicate batches.length none)
        ((importer.deliveries target calls filled.length batches).map Delivery.write) =
      filled ++ (importer.deliveries target calls filled.length batches).map
        fun d => some d.results := by
  induction batches generalizing calls filled with
  | nil =>
      rfl
  | cons batch rest ih =>
      let results := (target.callEnd calls (importer.callOf batch)).results batch
      have hrest := ih (calls ++ [importer.callOf batch]) (filled ++ [some results])
      rw [List.length_append, List.length_singleton, List.append_assoc, List.append_assoc,
        List.singleton_append, List.singleton_append] at hrest
      rw [deliveries, List.map_cons, List.map_cons, writeAll_cons, List.length_cons,
        List.replicate_succ]
      exact (congrArg (writeAll · _) (set_length_append filled _ none (some results))).trans hrest

/-- The counters of an importer are such as its build can hold. -/
def Settled
    (importer : Importer) : Prop :=
  importer.counting.settle importer.stats = .ok importer.stats

/-- The places that all batches have filled, in whatever order. -/
theorem flatMap_writeAll_deliveries
    (calls : List Call)
    (batches : List (List SourceRecord))
    {ds : List Delivery}
    (hds : ds.Perm (importer.deliveries target calls 0 batches)) :
    (writeAll (List.replicate batches.length none) (ds.map Delivery.write)).flatMap
        (fun slot => slot.getD []) =
      (importer.deliveries target calls 0 batches).flatMap Delivery.results := by
  have htasks : (((importer.deliveries target calls 0 batches).map Delivery.write).map
      Prod.fst).Nodup := by
    rw [List.map_map]
    exact (importer.awaits_deliveries target calls batches (.refl _)).nodup
  have hwritten := importer.writeAll_deliveries target calls [] batches
  rw [List.length_nil, List.nil_append, List.nil_append] at hwritten
  rw [writeAll_perm (hds.map Delivery.write) htasks, hwritten]
  simp [List.flatMap_map]

/-- The outcome of all batches: the calls, the results in order and what the counters make of the
sum do not depend on the order in which the batches finish. -/
theorem importBatches_eq
    (hsettled : importer.Settled)
    (schedule : Schedule)
    (calls : List Call)
    (batches : List (List SourceRecord)) :
    importer.importBatches target schedule calls batches =
      { calls := calls ++ batches.map importer.callOf
        ending :=
          (importer.counting.settle (importer.stats +
            ((importer.deliveries target calls 0 batches).map Delivery.stats).sum)).map
              fun stats =>
                ((importer.deliveries target calls 0 batches).flatMap Delivery.results,
                  { importer with stats }) } := by
  have hds := schedule.arrange_perm (importer.deliveries target calls 0 batches)
  obtain ⟨tickets, hjoined⟩ :=
    Joining.joinAll_finish (importer.awaits_deliveries target calls batches hds) hsettled
  rw [← Schedule.arrange_map, ← submit_eq, (hds.map Delivery.stats).sum_eq] at hjoined
  simp only [importBatches, hjoined, ← importer.flatMap_writeAll_deliveries target calls batches
    hds]
  cases importer.counting.settle (importer.stats +
    ((importer.deliveries target calls 0 batches).map Delivery.stats).sum) <;> rfl

end Importer

end AccountMigration
