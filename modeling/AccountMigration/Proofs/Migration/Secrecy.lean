import AccountMigration.Proofs.Import.Hashes
import AccountMigration.Proofs.Json.Layouts
import AccountMigration.Proofs.Migration.Breakdown
import AccountMigration.Proofs.Migration.Circumstances
import AccountMigration.Proofs.Migration.CrashWords

/-!
# Password hashes stay out of reports

Nothing in a report comes from a password hash, except the algorithm that most of the hashes have.
A run of records from which the hashes are taken out is the same run without hashes: it sends the
same requests less their hashes, gives no warning, and ends with the same report less the algorithm.
So two runs of records that differ in their hashes only are the same in everything else, but for
what is said about tasks that break down, which is not for a service or a run to decide.

* `Run.withoutHashes`: what is left of a run without password hashes.
* `Migration.run_withoutHash`: the run of records without password hashes.
* `MigrationReport.SameButHashes`: reports that differ in clock, algorithm and words about tasks
  that broke down only.
* `MigrationReport.exists_toText_around`: the text of such reports.
* `Migration.hashes_do_not_show`: records that differ in their hashes only have the same run.
* `Migration.breakdowns_show`: what is said about a task shows, and so does a count that breaks
  down.
-/

namespace AccountMigration

/-- The same report without the algorithm of the password hashes. -/
def MigrationReport.withoutAlgorithm
    (r : MigrationReport) : MigrationReport :=
  { r with passwordAlgorithm := none }

/-- What is left of a run without password hashes. -/
def Run.withoutHashes
    (run : Run) : Run where
  calls := run.calls.map Call.withoutHashes
  warnings := []
  ending := run.ending.map MigrationReport.withoutAlgorithm

/-- What is known of deduplicated records without their password hashes. -/
def Prepared.withoutHashes
    (p : Prepared) : Prepared :=
  { p with
    records := p.records.map SourceRecord.withoutHash
    algorithm := none
    warnings := [] }

section Parts

theorem hashesOf_withoutHash
    (records : List SourceRecord) :
    hashesOf (records.map SourceRecord.withoutHash) = [] := by
  simp [hashesOf, SourceRecord.withoutHash, List.filterMap_map, Function.comp_def]

theorem detectedAlgorithm_withoutHash
    (records : List SourceRecord) :
    detectedAlgorithm (records.map SourceRecord.withoutHash) = none := by
  rw [detectedAlgorithm, hashesOf_withoutHash, if_pos rfl]

theorem passwordWarnings_withoutHash
    (rules : EntryRules)
    (records : List SourceRecord) :
    passwordWarnings rules (records.map SourceRecord.withoutHash) = [] := by
  rw [passwordWarnings, detectedAlgorithm_withoutHash]
  cases rules.passwords <;> rfl

/-- Draws do not look at the records, and samples do not show hashes. -/
theorem Draw.sample_withoutHash
    (draw : Draw)
    (records : List SourceRecord)
    (size : Nat) :
    draw.sample (records.map SourceRecord.withoutHash) size = draw.sample records size := by
  simp only [sample, List.length_map, List.getElem?_map, Option.map_map]
  rfl

theorem Respelling.stop_hashless
    (stop : Stop) :
    Respelling.hashless.stop stop = stop := by
  rcases stop with (cause | ⟨key, existingId, duplicateId⟩) | fault <;> rfl

end Parts

/-- A service that does not look at hashes does not do so either when nothing is said about its
breakdowns. -/
theorem Target.IgnoresHashes.mute
    {target : Target}
    (htarget : target.IgnoresHashes) :
    target.mute.IgnoresHashes := by
  constructor
  · intro calls others call hcalls
    have hreply : target.reply calls call = target.reply others call :=
      congrArg CallEnd.reply (htarget.history calls others call hcalls)
    have hwords : target.words calls call = target.words others call :=
      congrArg CallEnd.words (htarget.history calls others call hcalls)
    simp only [callEnd, Target.mute, hreply, hwords]
  · intro calls request other hrequest
    have hreply : target.reply calls (.bulkImport request) =
        target.reply calls (.bulkImport other) :=
      congrArg CallEnd.reply (htarget.request calls request other hrequest)
    have hwords : target.words calls (.bulkImport request) =
        target.words calls (.bulkImport other) :=
      congrArg CallEnd.words (htarget.request calls request other hrequest)
    simp only [callEnd, Target.mute, hreply, hwords]
    cases target.reply calls (.bulkImport other) <;> rfl

namespace Migration

variable {m : Migration} {target : Target} {c d : Circumstances} {step : MigrationStep}
  {records others : List SourceRecord} {given : Option VerificationInput}

theorem prepare_of_refused
    {stop : Stop}
    (hdedup : deduplicate m.settings.dedup records = .error stop) :
    m.prepare records = .error stop := by
  rw [prepare, hdedup]

theorem preparedOf_hashless
    (m : Migration)
    (outcome : DedupOutcome) :
    m.preparedOf (Respelling.hashless.outcome outcome) =
      (m.preparedOf outcome).withoutHashes := by
  have halgorithm := detectedAlgorithm_withoutHash outcome.records
  have hwarnings := passwordWarnings_withoutHash m.settings.entries outcome.records
  have hconflicts : (outcome.conflicts.map Respelling.hashless.conflict).map Conflict.summary =
      outcome.conflicts.map Conflict.summary := by
    rw [List.map_map]
    rfl
  simp only [preparedOf, Respelling.outcome, hconflicts, Prepared.withoutHashes]
  rw [← halgorithm, ← hwarnings]
  rfl

/-- Records without password hashes are refused or prepared as the records are. -/
theorem prepare_withoutHash
    (m : Migration)
    (records : List SourceRecord) :
    m.prepare (records.map SourceRecord.withoutHash) =
      (m.prepare records).map Prepared.withoutHashes := by
  have hdedup := Respelling.hashless.deduplicate_map m.settings.dedup records
  rcases hcause : deduplicate m.settings.dedup records with stop | outcome
  · rw [hcause, Respelling.ending, Respelling.stop_hashless] at hdedup
    rw [prepare_of_refused hcause]
    exact prepare_of_refused hdedup
  · rw [hcause] at hdedup
    rw [prepare_eq hcause]
    exact (prepare_eq hdedup).trans (congrArg Except.ok (m.preparedOf_hashless outcome))

section Oblivious

variable (htarget : target.IgnoresHashes)
include htarget

/-- Records without password hashes are delivered as the records are. -/
theorem deliver_withoutHash
    (m : Migration)
    (c : Circumstances)
    (records : List SourceRecord) :
    m.deliver target c (records.map SourceRecord.withoutHash) =
      ((m.deliver target c records).1.map Call.withoutHashes,
        (m.deliver target c records).2) := by
  have hcrowd : m.Overcrowded (records.map SourceRecord.withoutHash) ↔ m.Overcrowded records := by
    simp [Overcrowded]
  have hoverflows : m.Overflows target (records.map SourceRecord.withoutHash) ↔
      m.Overflows target records := by
    simp only [Overflows, Importer.statsOf_withoutHash _ htarget]
  have hsendings : m.sendings (records.map SourceRecord.withoutHash) =
      (m.sendings records).map Call.withoutHashes := by
    simp only [sendings, Importer.map_callOf_withoutHash]
    split <;> rfl
  have hdelivered : m.delivered target (records.map SourceRecord.withoutHash) =
      m.delivered target records := by
    simp only [delivered, Importer.resultsOf_withoutHash _ htarget,
      Importer.statsOf_withoutHash _ htarget, List.length_map]
  by_cases hmany : m.Overcrowded records
  · rw [deliver_of_overcrowded hmany, deliver_of_overcrowded (hcrowd.mpr hmany)]
    rfl
  · by_cases hmuch : m.Overflows target records
    · have hworkers := workers_of_overflows hmany hmuch
      rw [deliver_of_overflows hworkers hmuch,
        deliver_of_overflows hworkers (hoverflows.mpr hmuch), hsendings]
    · rw [deliver_of_delivers ⟨hmany, hmuch⟩,
        deliver_of_delivers ⟨mt hcrowd.mp hmany, mt hoverflows.mp hmuch⟩, hsendings, hdelivered]

/-- The last stage of a run without password hashes. -/
theorem conclude_withoutHashes
    (calls : List Call)
    (given : Option VerificationInput)
    (prepared : Option Prepared)
    (done : Delivered) :
    m.conclude target c step (calls.map Call.withoutHashes) given
        (prepared.map Prepared.withoutHashes) done =
      (m.conclude target c step calls given prepared done).withoutHashes := by
  have hinput : inputOf c given (prepared.map Prepared.withoutHashes) =
      inputOf c given prepared := by
    rcases given with _ | input
    · rcases prepared with _ | p
      · rfl
      · simp only [inputOf, Option.map_some, Prepared.withoutHashes, Draw.sample_withoutHash]
    · rfl
  have hwarnings : ((prepared.map Prepared.withoutHashes).map (·.warnings)).getD [] = [] := by
    cases prepared <;> rfl
  have hreport : ∀ v, m.report c step (prepared.map Prepared.withoutHashes) done v =
      (m.report c step prepared done v).withoutAlgorithm := by
    intro v
    cases prepared <;> rfl
  simp only [conclude, hwarnings, check, hinput]
  split
  · split
    · rfl
    · rename_i input _
      simp only [htarget.verify_eq, Run.withoutHashes]
      cases (verify target c.lookups m.settings.workers calls input.sourceCount
          input.sample).ending with
      | error fault =>
          rfl
      | ok v =>
          exact congrArg (Run.mk _ [] ∘ Except.ok) (hreport (some v))
  · exact congrArg (Run.mk _ [] ∘ Except.ok) (hreport none)

/-- A run of records without password hashes is the run of the records without their hashes. -/
theorem run_withoutHash
    (m : Migration)
    (c : Circumstances)
    (step : MigrationStep)
    (records : List SourceRecord)
    (given : Option VerificationInput) :
    m.run target c step (records.map SourceRecord.withoutHash) given =
      (m.run target c step records given).withoutHashes := by
  unfold run
  split
  · rw [prepare_withoutHash]
    rcases m.prepare records with stop | prepared
    · rfl
    · have hdeliver := deliver_withoutHash htarget m c prepared.records
      simp only [Except.map, Prepared.withoutHashes] at hdeliver ⊢
      rw [hdeliver]
      rcases m.deliver target c prepared.records with ⟨calls, fault | done⟩
      · rfl
      · exact conclude_withoutHashes htarget calls given (some prepared) done
  · exact conclude_withoutHashes htarget [] given none ⟨[], {}⟩

end Oblivious

/-- The requests of an import are those of batches. -/
theorem exists_batch_of_mem_sendings
    {request : ImportRequest}
    (hrequest : request ∈ requestsOf (m.sendings records)) :
    ∃ batch, request = requestOf m.settings.entries m.settings.onConflict batch := by
  obtain ⟨call, hcall, hof⟩ := List.mem_filterMap.mp hrequest
  unfold sendings at hcall
  split at hcall
  · exact absurd hcall List.not_mem_nil
  · obtain ⟨batch, -, rfl⟩ := List.mem_map.mp hcall
    exact ⟨batch, (Option.some.inj hof).symm⟩

/-- The requests of a run are those of batches. -/
theorem exists_batch_of_mem_requestsOf
    {request : ImportRequest}
    (hrequest : request ∈ requestsOf (m.run target c step records given).calls) :
    ∃ batch, request = requestOf m.settings.entries m.settings.onConflict batch := by
  revert hrequest
  refine run_courses ?_ ?_ ?_ ?_ ?_
  · intro stop _ _ hrequest
    exact absurd hrequest List.not_mem_nil
  · intro outcome _ _ _ hrequest
    exact absurd hrequest List.not_mem_nil
  · intro outcome _ _ _ _ hrequest
    exact exists_batch_of_mem_sendings hrequest
  · intro outcome _ _ _ hrequest
    rw [concludeWith, requestsOf_conclude] at hrequest
    exact exists_batch_of_mem_sendings hrequest
  · intro _ hrequest
    rw [requestsOf_conclude] at hrequest
    exact absurd hrequest List.not_mem_nil

section NoTransfer

variable (hpasswords : m.settings.entries.passwords ≠ .transfer)
include hpasswords

/-- When hashes are not to be transferred, no request of a run has any. -/
theorem withoutHashes_of_mem_requestsOf
    {request : ImportRequest}
    (hrequest : request ∈ requestsOf (m.run target c step records given).calls) :
    request.withoutHashes = request := by
  obtain ⟨batch, rfl⟩ := exists_batch_of_mem_requestsOf hrequest
  have hentry : ∀ r : SourceRecord, (r.toEntry m.settings.entries).withoutHash =
      r.toEntry m.settings.entries := by
    intro r
    have hnone : m.settings.entries.hashOf r.passwordHash = none := by
      unfold EntryRules.hashOf
      split
      · contradiction
      · rfl
      · rfl
    simp [SourceRecord.toEntry, ImportEntry.withoutHash, hnone]
  simp [requestOf, ImportRequest.withoutHashes, hentry, Function.comp_def]

/-- When hashes are not to be transferred, a run gives no warning about them. -/
theorem warnings_of_no_transfer :
    (m.run target c step records given).warnings = [] := by
  have hnone : ∀ kept, passwordWarnings m.settings.entries kept = [] := by
    intro kept
    unfold passwordWarnings
    split
    · contradiction
    · rfl
  refine run_courses ?_ ?_ ?_ ?_ ?_
  · intro stop _ _
    rfl
  · intro outcome _ _ _
    exact hnone outcome.records
  · intro outcome _ _ _ _
    exact hnone outcome.records
  · intro outcome _ _ _
    exact hnone outcome.records
  · intro _
    rfl

end NoTransfer

end Migration

/-- Reports that are the same but for the clock, the algorithm of the password hashes, and the words
about tasks that broke down. -/
structure MigrationReport.SameButHashes
    (r s : MigrationReport) : Prop where
  fields :
    s = { r with
      startedAt := s.startedAt
      finishedAt := s.finishedAt
      passwordAlgorithm := s.passwordAlgorithm
      importResults := s.importResults }
  results : List.Forall₂ ImportResult.SameButWords r.importResults s.importResults

@[refl] theorem MigrationReport.SameButHashes.refl
    (r : MigrationReport) :
    r.SameButHashes r :=
  ⟨rfl, List.forall₂_same.mpr fun result _ => .refl result⟩

/-- Reports are the same but for their hashes when they are so without words about breakdowns. -/
theorem MigrationReport.sameButHashes_of_sameButWords
    {c : Circumstances}
    {r s mute muted : MigrationReport}
    (hr : r.SameButWords mute)
    (hs : s.SameButWords muted)
    (hsame : muted.withoutAlgorithm = (mute.timed c).withoutAlgorithm) :
    r.SameButHashes s := by
  have hresults := congrArg MigrationReport.importResults hsame
  change muted.importResults = mute.importResults at hresults
  constructor
  · rw [hr.fields, hs.fields] at hsame
    simp only [withoutAlgorithm, timed, mk.injEq] at hsame
    obtain ⟨hstep, hdry, -, -, hstats, hconflicts, -, himport, -, hverification, hpassed⟩ := hsame
    rw [← hstep, ← hdry, ← hstats, ← hconflicts, ← himport, ← hverification, ← hpassed]
  · have hmuted := hs.results
    rw [hresults] at hmuted
    exact ImportResult.SameButWords.forall₂_of_common hr.results hmuted

/-- A text that is put together from the times, the algorithm and the results of a report and from
five texts around them. -/
def MigrationReport.fill
    (r : MigrationReport)
    (front times middle late back : List Char) : String :=
  String.ofList
    (front ++ Json.pretty 1 r.startedAt.toJson
      ++ times ++ Json.pretty 1 (.ofOption Timestamp.toJson r.finishedAt)
      ++ middle ++ Json.pretty 1 (.ofOption (fun a => .text a.name) r.passwordAlgorithm)
      ++ late ++ Json.pretty 1 (.list ImportResult.toJson r.importResults)
      ++ back)

/-- Around the times, the algorithm and the results, reports that are otherwise the same have the
same text. -/
theorem MigrationReport.exists_toText_around
    (r : MigrationReport) :
    ∃ front times middle late back,
      ∀ s, r.SameButHashes s → s.toText = s.fill front times middle late back := by
  obtain ⟨start, hstart⟩ :=
    Json.exists_prettyMembers_gap 0 [(some "dry_run", .bool r.dryRun)] (some "started_at")
  obtain ⟨times, hfinish⟩ := Json.exists_prettyMembers_gap 0 [] (some "finished_at")
  obtain ⟨middle, halgorithm⟩ :=
    Json.exists_prettyMembers_gap 0
      [(some "dedup_stats", r.dedupStats.toJson),
        (some "conflicts", .list ConflictSummary.toJson r.conflicts)]
      (some "password_algorithm")
  obtain ⟨late, hresults⟩ :=
    Json.exists_prettyMembers_gap 0 [(some "import_stats", r.importStats.toJson)]
      (some "import_results")
  simp only [List.cons_append, List.nil_append] at hstart hfinish halgorithm hresults
  refine ⟨'\x7b' :: Json.newLine 1 ++ Json.quote (some "step") ++ ':' :: ' ' ::
      Json.pretty 1 (.text r.step.name) ++ start, times, middle, late,
    Json.prettyMembers 0
      [(some "verification", .ofOption VerificationReport.toJson r.verification),
        (some "verification_passed", .ofOption .bool r.verificationPassed)], ?_⟩
  intro s hsame
  rw [hsame.fields]
  simp only [toText, Json.toPrettyText, toJson, Json.record, List.map_cons, List.map_nil,
    Json.pretty, hstart, hfinish, halgorithm, hresults, fill, List.append_assoc, List.cons_append]

namespace Migration

variable {m : Migration} {target twin : Target} {c d : Circumstances} {step : MigrationStep}
  {records others : List SourceRecord} {given : Option VerificationInput}

section Pairs

variable (hdraw : c.draw = d.draw)
  (hrecords : records.map SourceRecord.withoutHash = others.map SourceRecord.withoutHash)
include hdraw hrecords

/-- Without their hashes, the runs of records that differ in hashes only are one run at two
times. -/
theorem withoutHashes_run
    (htarget : target.IgnoresHashes)
    (m : Migration)
    (step : MigrationStep)
    (given : Option VerificationInput) :
    (m.run target d step others given).withoutHashes =
      ((m.run target c step records given).timed d).withoutHashes := by
  rw [← run_withoutHash htarget, ← hrecords, run_withoutHash htarget, run_timed hdraw]

/-- The runs end alike. -/
theorem endings_of_hashes
    (htarget : target.IgnoresHashes)
    (m : Migration)
    (step : MigrationStep)
    (given : Option VerificationInput) :
    (∃ stop,
      (m.run target c step records given).ending = .error stop ∧
      (m.run target d step others given).ending = .error stop) ∨
    ∃ r s,
      (m.run target c step records given).ending = .ok r ∧
      (m.run target d step others given).ending = .ok s ∧
      s.withoutAlgorithm = (r.timed d).withoutAlgorithm := by
  have hrun := congrArg Run.ending (withoutHashes_run hdraw hrecords htarget m step given)
  simp only [Run.withoutHashes, Run.timed] at hrun
  rcases hfirst : (m.run target c step records given).ending with stop | r
  · rcases hsecond : (m.run target d step others given).ending with other | s
    · rw [hfirst, hsecond] at hrun
      obtain rfl := Except.error.inj hrun
      exact Or.inl ⟨other, rfl, rfl⟩
    · rw [hfirst, hsecond] at hrun
      cases hrun
  · rcases hsecond : (m.run target d step others given).ending with other | s
    · rw [hfirst, hsecond] at hrun
      cases hrun
    · rw [hfirst, hsecond] at hrun
      exact Or.inr ⟨r, s, rfl, rfl, Except.ok.inj hrun⟩

section Twins

variable (htarget : target.mute.IgnoresHashes) (htwin : twin.mute = target.mute)
include htarget htwin

/-- At services that differ in words about breakdowns only, the runs end alike, too, and with the
same results where no import breaks down. -/
theorem endings_of_twins
    (m : Migration)
    (step : MigrationStep)
    (given : Option VerificationInput) :
    (∃ stop,
      (m.run target c step records given).ending = .error stop ∧
      (m.run twin d step others given).ending = .error stop) ∨
    ∃ r s,
      (m.run target c step records given).ending = .ok r ∧
      (m.run twin d step others given).ending = .ok s ∧
      r.SameButHashes s ∧
      ((∀ calls request, target.reply calls (.bulkImport request) ≠ .crashed) →
        r.importResults = s.importResults) := by
  have hfirst := (m.run_mute target c step records given).ending
  have hsecond := (m.run_mute twin d step others given).ending
  rw [htwin] at hsecond
  rcases endings_of_hashes hdraw hrecords htarget m step given with
    ⟨stop, hstop, hother⟩ | ⟨mute, muted, hmute, hmuted, hsame⟩
  · rw [hstop] at hfirst
    rw [hother] at hsecond
    rcases hfirst with ⟨_, hrun, ⟨⟩⟩ | ⟨_, _, -, ⟨⟩, -⟩
    rcases hsecond with ⟨_, htwinrun, ⟨⟩⟩ | ⟨_, _, -, ⟨⟩, -⟩
    exact Or.inl ⟨stop, hrun, htwinrun⟩
  · rw [hmute] at hfirst
    rw [hmuted] at hsecond
    rcases hfirst with ⟨_, -, ⟨⟩⟩ | ⟨r, _, hr, ⟨⟩, hrwords⟩
    rcases hsecond with ⟨_, -, ⟨⟩⟩ | ⟨s, _, hs, ⟨⟩, hswords⟩
    refine Or.inr ⟨r, s, hr, hs,
      MigrationReport.sameButHashes_of_sameButWords hrwords hswords hsame, fun hreplies => ?_⟩
    have htwinreplies : ∀ calls request, twin.reply calls (.bulkImport request) ≠ .crashed := by
      change ∀ calls request, twin.mute.reply calls (.bulkImport request) ≠ .crashed
      rw [htwin]
      exact hreplies
    rw [m.run_mute_of_no_crash target c step records given hreplies, hr] at hmute
    rw [← htwin, m.run_mute_of_no_crash twin d step others given htwinreplies, hs] at hmuted
    cases hmute
    cases hmuted
    exact (congrArg MigrationReport.importResults hsame).symm

/-- When hashes are not to be transferred, the runs send the same requests. -/
theorem requestsOf_of_hashes
    (hpasswords : m.settings.entries.passwords ≠ .transfer) :
    requestsOf (m.run target c step records given).calls =
      requestsOf (m.run twin d step others given).calls := by
  have hmute : (m.run target.mute c step records given).calls.map Call.withoutHashes =
      (m.run target.mute d step others given).calls.map Call.withoutHashes :=
    (congrArg Run.calls (withoutHashes_run hdraw hrecords htarget m step given)).symm
  have hcalls : (m.run target c step records given).calls.map Call.withoutHashes =
      (m.run twin d step others given).calls.map Call.withoutHashes := by
    rw [(m.run_mute target c step records given).calls, hmute, ← htwin,
      (m.run_mute twin d step others given).calls]
  have hsame : ∀ (any : Target) (e : Circumstances) (sent : List SourceRecord),
      (requestsOf (m.run any e step sent given).calls).map ImportRequest.withoutHashes =
        requestsOf (m.run any e step sent given).calls := by
    intro any e sent
    exact (List.map_congr_left fun request hrequest =>
      withoutHashes_of_mem_requestsOf hpasswords hrequest).trans (List.map_id _)
  rw [← hsame target c records, ← hsame twin d others, ← requestsOf_map_withoutHashes, hcalls,
    requestsOf_map_withoutHashes]

end Twins

end Pairs

/-- Records that differ in their password hashes only have the same run at a service that does not
look at hashes, where what is said about tasks that broke down may be anything.  Both runs end with
one error, or both with a report.  The reports are then the same but for the clock, the algorithm of
the hashes and what is said about such tasks, in their fields and in their text, and their results
are the same when no import breaks down.  Otherwise both runs break down in the same way, for want
of permits, on counters that overflow, or at a count.  When hashes are not to be transferred, the
requests are the same and neither run gives a warning. -/
theorem hashes_do_not_show
    (m : Migration)
    {target twin : Target}
    (htarget : target.mute.IgnoresHashes)
    (htwin : twin.mute = target.mute)
    {c d : Circumstances}
    (hdraw : c.draw = d.draw)
    (step : MigrationStep)
    {records others : List SourceRecord}
    (hrecords : records.map SourceRecord.withoutHash = others.map SourceRecord.withoutHash)
    (given : Option VerificationInput) :
    ((∃ error,
      (m.run target c step records given).ending = .error (.error error) ∧
      (m.run twin d step others given).ending = .error (.error error)) ∨
    (∃ r s,
      (m.run target c step records given).ending = .ok r ∧
      (m.run twin d step others given).ending = .ok s ∧
      r.SameButHashes s ∧
      (∃ front times middle late back,
        r.toText = r.fill front times middle late back ∧
        s.toText = s.fill front times middle late back) ∧
      ((∀ calls request, target.reply calls (.bulkImport request) ≠ .crashed) →
        r.importResults = s.importResults)) ∨
    ∃ fault,
      (m.run target c step records given).ending = .error (.fault fault) ∧
      (m.run twin d step others given).ending = .error (.fault fault) ∧
      (permitLimit < m.settings.workers ∨ m.RunOverflows target step records ∨
        step.verifies = true ∧
          target.CountCrash (m.run target c step records given).calls)) ∧
    (m.settings.entries.passwords ≠ .transfer →
      requestsOf (m.run target c step records given).calls =
        requestsOf (m.run twin d step others given).calls ∧
      (m.run target c step records given).warnings = [] ∧
      (m.run twin d step others given).warnings = []) := by
  constructor
  · rcases endings_of_twins hdraw hrecords htarget htwin m step given with
      ⟨error | fault, hstop, hother⟩ | ⟨r, s, hr, hs, hsame, hresults⟩
    · exact Or.inl ⟨error, hstop, hother⟩
    · exact Or.inr (Or.inr ⟨fault, hstop, hother, cause_of_fault hstop⟩)
    · obtain ⟨front, times, middle, late, back, htext⟩ := r.exists_toText_around
      exact Or.inr (Or.inl ⟨r, s, hr, hs, hsame,
        ⟨front, times, middle, late, back, htext r (.refl r), htext s hsame⟩, hresults⟩)
  · intro hpasswords
    exact ⟨requestsOf_of_hashes hdraw hrecords htarget htwin hpasswords,
      warnings_of_no_transfer hpasswords, warnings_of_no_transfer hpasswords⟩

/-- A live run with small batches whose accounts are to have new passwords. -/
def resettingMigration : Migration where
  settings := { dryRun := false, batchSize := 1, entries := { passwords := .forceReset } }
  valid := by decide

/-- Two records with password hashes of two algorithms. -/
def hashedRecords : List SourceRecord :=
  [{ id := "1", email := some "ada@x.org", passwordHash := some "$2b$12$saltsaltsaltsaltsaltsa" },
    { id := "2", email := some "bob@x.org", passwordHash := some "$argon2id$v=19$m=4096,t=3" }]

/-- The same records with other password hashes, one of them without any. -/
def rehashedRecords : List SourceRecord :=
  [{ id := "1", email := some "ada@x.org",
      passwordHash := some "5f4dcc3b5aa765d61d8327deb882cf99" },
    { id := "2", email := some "bob@x.org" }]

theorem unsteadyTarget_ignoresHashes :
    Importer.unsteadyTarget.IgnoresHashes := by
  have hlength : ∀ calls others : List Call,
      calls.map Call.withoutHashes = others.map Call.withoutHashes →
      (requestsOf calls).length = (requestsOf others).length := by
    intro calls others hcalls
    have hrequests := congrArg (List.length ∘ requestsOf) hcalls
    simpa [requestsOf_map_withoutHashes] using hrequests
  constructor
  · intro calls others call hcalls
    simp only [Target.callEnd, Importer.unsteadyTarget, hlength calls others hcalls]
  · intro calls request other _
    rfl

/-- A service that breaks down on imports and on counts, with what is said about a task. -/
def brokenTarget
    (words : String) : Target where
  reply _ call :=
    match call with
    | .bulkImport _ => .crashed
    | .countUsers => .crashed
    | .countProfiles => .crashed
    | .findUser _ => .answered none
  words _ call :=
    match call with
    | .bulkImport _ => some words
    | _ => none

theorem brokenTarget_mute
    (words others : String) :
    (brokenTarget words).mute = (brokenTarget others).mute := by
  simp only [Target.mute, brokenTarget, Target.mk.injEq, true_and]
  funext _ call
  cases call <;> rfl

theorem brokenTarget_ignoresHashes
    (words : String) :
    (brokenTarget words).IgnoresHashes := by
  constructor
  · intro _ _ _ _
    rfl
  · intro _ _ _ _
    rfl

/-- Other hashes do not show, whether they are transferred or not, in a run whose second batch is
refused and in one whose batches break down. -/
theorem hashes_do_not_show_hashedRecords :
    Importer.unsteadyTarget.mute.IgnoresHashes ∧
    (brokenTarget "task 7 panicked").mute.IgnoresHashes ∧
    (brokenTarget "task 9 panicked").mute = (brokenTarget "task 7 panicked").mute ∧
    hashedRecords.map SourceRecord.withoutHash = rehashedRecords.map SourceRecord.withoutHash ∧
    resettingMigration.settings.entries.passwords ≠ .transfer ∧
    (∃ r s,
      (plainMigration.run Importer.unsteadyTarget plainCircumstances .importRecords hashedRecords
        none).ending = .ok r ∧
      (plainMigration.run Importer.unsteadyTarget plainCircumstances .importRecords rehashedRecords
        none).ending = .ok s ∧
      r.SameButHashes s) ∧
    requestsOf (resettingMigration.run (brokenTarget "task 7 panicked") plainCircumstances .all
        hashedRecords none).calls =
      requestsOf (resettingMigration.run (brokenTarget "task 9 panicked") plainCircumstances .all
        rehashedRecords none).calls := by
  have htarget := unsteadyTarget_ignoresHashes.mute
  have hbroken := (brokenTarget_ignoresHashes "task 7 panicked").mute
  have htwin := brokenTarget_mute "task 9 panicked" "task 7 panicked"
  have hrecords : hashedRecords.map SourceRecord.withoutHash =
      rehashedRecords.map SourceRecord.withoutHash := rfl
  have hpasswords : resettingMigration.settings.entries.passwords ≠ .transfer := by decide
  obtain ⟨hplain, -⟩ :=
    hashes_do_not_show plainMigration htarget rfl rfl .importRecords hrecords none
  obtain ⟨-, hreset⟩ := hashes_do_not_show resettingMigration hbroken htwin rfl .all hrecords none
  refine ⟨htarget, hbroken, htwin, hrecords, hpasswords, ?_, (hreset hpasswords).1⟩
  obtain ⟨report, hreport⟩ := exists_report_unsteadyTarget .importRecords rfl hashedRecords
  rcases hplain with ⟨error, hstop, -⟩ | ⟨r, s, hr, hs, hsame, -⟩ | ⟨fault, hstop, -⟩
  · rw [hreport] at hstop
    cases hstop
  · exact ⟨r, s, hr, hs, hsame⟩
  · rw [hreport] at hstop
    cases hstop

/-- What is said about a task that broke down shows in the results of a run, and a count on which
the service breaks down leaves both runs without a report and without an error. -/
theorem breakdowns_show :
    (brokenTarget "task 7 panicked").IgnoresHashes ∧
    (brokenTarget "task 9 panicked").IgnoresHashes ∧
    (brokenTarget "task 7 panicked").mute = (brokenTarget "task 9 panicked").mute ∧
    hashedRecords.map SourceRecord.withoutHash = rehashedRecords.map SourceRecord.withoutHash ∧
    (∃ r s,
      (plainMigration.run (brokenTarget "task 7 panicked") plainCircumstances .importRecords
        hashedRecords none).ending = .ok r ∧
      (plainMigration.run (brokenTarget "task 9 panicked") plainCircumstances .importRecords
        rehashedRecords none).ending = .ok s ∧
      r.importResults ≠ s.importResults) ∧
    (plainMigration.run (brokenTarget "task 7 panicked") plainCircumstances .all hashedRecords
      none).ending = .error (.fault .countCrashed) ∧
    (plainMigration.run (brokenTarget "task 7 panicked") plainCircumstances .all rehashedRecords
      none).ending = .error (.fault .countCrashed) := by
  have hhashed : deduplicate plainMigration.settings.dedup hashedRecords =
      .ok ⟨hashedRecords, [], { total := 2, unique := 2 }⟩ := by
    decide
  have hrehashed : deduplicate plainMigration.settings.dedup rehashedRecords =
      .ok ⟨rehashedRecords, [], { total := 2, unique := 2 }⟩ := by
    decide
  have hworkers : plainMigration.settings.workers ≤ permitLimit := by decide
  have hfits : ∀ words records, ¬ plainMigration.Overflows (brokenTarget words) records :=
    fun _ _ => not_overflows_of_unchecked (by decide)
  have hreports : ∀ words records stats,
      deduplicate plainMigration.settings.dedup records = .ok ⟨records, [], stats⟩ →
      (plainMigration.run (brokenTarget words) plainCircumstances .importRecords records
        none).ending =
          .ok (plainMigration.report plainCircumstances .importRecords
            (some (plainMigration.preparedOf ⟨records, [], stats⟩))
            (plainMigration.delivered (brokenTarget words) records) none) := by
    intro words records stats hdedup
    rw [run_of_imports hworkers rfl hdedup (hfits words records)]
    exact conclude_of_not_verifies rfl
  refine ⟨brokenTarget_ignoresHashes _, brokenTarget_ignoresHashes _, brokenTarget_mute _ _, rfl,
    ⟨_, _, hreports _ _ _ hhashed, hreports _ _ _ hrehashed, ?_⟩, ?_, ?_⟩
  · decide +kernel
  · rw [run_of_imports hworkers rfl hhashed (hfits _ _)]
    rfl
  · rw [run_of_imports hworkers rfl hrehashed (hfits _ _)]
    rfl

end Migration

end AccountMigration
