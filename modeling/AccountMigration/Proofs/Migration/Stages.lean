import AccountMigration.Proofs.Dedup.Refusal
import AccountMigration.Proofs.Import.Submitted
import AccountMigration.Proofs.Migration.Parts
import AccountMigration.Proofs.Verification.Calls

/-!
# The stages of a run

A run that imports deduplicates first, then delivers what is left, and then concludes; one that
does not import only concludes.  A refusal ends a run before any call is made, and behind it only
counters that overflow in a build that checks them, or a crash on a count, keep a run from its
report.

* `Migration.sendings` and `Migration.delivered`: the calls of an import and what comes of them,
  in a live run and in a dry run.
* `Migration.Overflows` and `Migration.RunOverflows`: the counters cannot take what comes of a live
  import, or of that of a run.
* `Migration.conclude_ok_or_crash`: how the last stage ends.
* `Migration.run_of_refused`, `Migration.run_of_imports` and `Migration.run_of_not_imports`: the
  three courses of a run.
* `Migration.exists_of_run_ok`: the course of a run that imports and ends with a report.
-/

namespace AccountMigration

/-- A run that ends at a call for a count on which the service breaks down. -/
structure Target.BreaksDown
    (target : Target)
    (run : Run) : Prop where
  ending : run.ending = .error (.fault .countCrashed)
  calls : target.CountCrash run.calls

namespace Migration

/-- The calls of an import: one for each batch, or none in a dry run. -/
def sendings
    (m : Migration)
    (records : List SourceRecord) : List Call :=
  if m.settings.dryRun then [] else (m.importer.batchesOf records).map m.importer.callOf

/-- What comes of an import: what the replies to its batches mean and what the counters keep of it,
or only a total in a dry run. -/
def delivered
    (m : Migration)
    (target : Target)
    (records : List SourceRecord) : Delivered :=
  if m.settings.dryRun then ⟨[], { total := records.length }⟩
  else
    ⟨m.importer.resultsOf target [] records,
      m.counting.kept (m.importer.statsOf target [] records)⟩

/-- A live import adds more to the counters than they can take, and this is checked. -/
def Overflows
    (m : Migration)
    (target : Target)
    (records : List SourceRecord) : Prop :=
  m.settings.dryRun = false ∧ m.counting.Overflows (m.importer.statsOf target [] records)

/-- A run comes to a live import that adds more to the counters than they can take. -/
def RunOverflows
    (m : Migration)
    (target : Target)
    (step : MigrationStep)
    (records : List SourceRecord) : Prop :=
  step.imports = true ∧
    ∃ outcome, deduplicate m.settings.dedup records = .ok outcome ∧
      m.Overflows target outcome.records

section Deliver

variable {m : Migration} {target : Target} {c : Circumstances} {records : List SourceRecord}

theorem sendings_of_dry
    (hdry : m.settings.dryRun = true) :
    m.sendings records = [] := by
  rw [sendings, if_pos hdry]

theorem delivered_of_dry
    (hdry : m.settings.dryRun = true)
    (target : Target)
    (records : List SourceRecord) :
    m.delivered target records = ⟨[], { total := records.length }⟩ := by
  rw [delivered, if_pos hdry]

/-- A live import sends the entries of its records in order. -/
theorem sentEntries_sendings
    (hlive : m.settings.dryRun = false) :
    sentEntries (m.sendings records) =
      records.map (SourceRecord.toEntry m.settings.entries) := by
  have hdry : ¬ m.settings.dryRun = true := by simp [hlive]
  rw [sendings, if_neg hdry, Importer.sentEntries_batchesOf]
  rfl

theorem total_delivered
    (m : Migration)
    (target : Target)
    (records : List SourceRecord) :
    (m.delivered target records).stats.total = records.length := by
  unfold delivered
  split
  · rfl
  · exact (m.counting.total_kept _).trans (m.importer.total_statsOf target [] records)

/-- The importer of a run has counted nothing yet. -/
theorem importer_settled
    (m : Migration) :
    m.importer.Settled := by
  exact m.counting.settle_zero

/-- Only builds that check their sums have counters that overflow. -/
theorem not_overflows_of_unchecked
    (hcounting : m.counting ≠ .checked) :
    ¬ m.Overflows target records := by
  rintro ⟨-, hchecked, -⟩
  exact hcounting hchecked

theorem not_runOverflows_of_unchecked
    {step : MigrationStep}
    (hcounting : m.counting ≠ .checked) :
    ¬ m.RunOverflows target step records := by
  rintro ⟨-, outcome, -, hoverflows⟩
  exact not_overflows_of_unchecked hcounting hoverflows

theorem not_overflows_nil :
    ¬ m.Overflows target [] := by
  rintro ⟨-, -, hoverflows⟩
  have hnone : m.importer.statsOf target [] [] = 0 := by simp [Importer.statsOf]
  rw [hnone] at hoverflows
  exact hoverflows Counting.fits_zero

theorem settled_of_not_overflows
    (hlive : m.settings.dryRun = false)
    (hfits : ¬ m.Overflows target records) :
    m.importer.settled target [] records =
      .ok (m.importer.resultsOf target [] records,
        { m.importer with stats := m.counting.kept (m.importer.statsOf target [] records) }) := by
  have hroom : ¬ m.counting.Overflows (m.importer.statsOf target [] records) :=
    fun hoverflows => hfits ⟨hlive, hoverflows⟩
  have hstart : m.importer.stats + m.importer.statsOf target [] records =
      m.importer.statsOf target [] records := ImportStats.zero_add _
  refine m.importer.settled_of_settle target ?_
  rw [hstart]
  exact Counting.settle_of_not_overflows hroom

theorem settled_of_overflows
    (hoverflows : m.Overflows target records) :
    m.importer.settled target [] records = .error .countersOverflowed := by
  have hstart : m.importer.stats + m.importer.statsOf target [] records =
      m.importer.statsOf target [] records := ImportStats.zero_add _
  have hsettle : m.importer.counting.settle (m.importer.statsOf target [] records) =
      .error .countersOverflowed := Counting.settle_of_overflows hoverflows.2
  rw [Importer.settled, hstart, hsettle]
  rfl

theorem deliver_of_dry
    (hdry : m.settings.dryRun = true) :
    m.deliver target c records = (m.sendings records, .ok (m.delivered target records)) := by
  rw [sendings_of_dry hdry, delivered_of_dry hdry target records, deliver, if_pos hdry]

/-- What a live delivery comes to when its import comes out in closed form. -/
theorem deliver_of_importing
    (hlive : m.settings.dryRun = false)
    (himport : m.importing target c records =
      { calls := (m.importer.batchesOf records).map m.importer.callOf
        ending := m.importer.settled target [] records }) :
    m.deliver target c records =
      (m.sendings records,
        (m.importer.settled target [] records).map fun (results, importer) =>
          ⟨results, importer.stats⟩) := by
  have hdry : ¬ m.settings.dryRun = true := by simp [hlive]
  rw [importing] at himport
  rw [deliver, if_neg hdry, himport, sendings, if_neg hdry]

theorem deliver_of_not_overflows
    (hlive : m.settings.dryRun = false)
    (himport : m.importing target c records =
      { calls := (m.importer.batchesOf records).map m.importer.callOf
        ending := m.importer.settled target [] records })
    (hfits : ¬ m.Overflows target records) :
    m.deliver target c records = (m.sendings records, .ok (m.delivered target records)) := by
  have hdry : ¬ m.settings.dryRun = true := by simp [hlive]
  rw [deliver_of_importing hlive himport, settled_of_not_overflows hlive hfits, delivered,
    if_neg hdry]
  rfl

/-- A live delivery breaks down when the counters overflow. -/
theorem deliver_of_overflows
    (hworkers : m.settings.workers ≤ permitLimit)
    (hoverflows : m.Overflows target records) :
    m.deliver target c records = (m.sendings records, .error .countersOverflowed) := by
  have himport := m.importer.importAll_eq target m.importer_settled c.batches [] records hworkers
  rw [deliver_of_importing hoverflows.1 himport, settled_of_overflows hoverflows]
  rfl

/-- A dry run and a run without records deliver in closed form with any number of workers. -/
theorem deliver_of_nothing
    (hnothing : m.settings.dryRun = true ∨ records = []) :
    m.deliver target c records = (m.sendings records, .ok (m.delivered target records)) := by
  cases hdry : m.settings.dryRun with
  | true =>
      exact deliver_of_dry hdry
  | false =>
      obtain rfl := hnothing.resolve_left (by simp [hdry])
      have hending : (m.importing target c []).ending = .ok ([], m.importer) := by
        rw [importing, Importer.importAll, if_pos rfl]
      have himport :=
        m.importer.importAll_of_ok target [] [] m.importer_settled c.batches hending
      exact deliver_of_not_overflows hdry himport not_overflows_nil

theorem deliver_of_ok
    {done : Delivered}
    (hdone : (m.deliver target c records).2 = .ok done) :
    m.deliver target c records = (m.sendings records, .ok (m.delivered target records)) := by
  cases hdry : m.settings.dryRun with
  | true =>
      exact deliver_of_dry hdry
  | false =>
      cases hending : (m.importing target c records).ending with
      | error fault =>
          rw [importing] at hending
          simp [deliver, hdry, hending, Except.map] at hdone
      | ok result =>
          have himport :=
            m.importer.importAll_of_ok target [] records m.importer_settled c.batches hending
          refine deliver_of_not_overflows hdry himport fun hoverflows => ?_
          rw [deliver_of_importing hdry himport, settled_of_overflows hoverflows] at hdone
          cases hdone

theorem deliver_eq
    (hworkers : m.settings.workers ≤ permitLimit)
    (hfits : ¬ m.Overflows target records) :
    m.deliver target c records = (m.sendings records, .ok (m.delivered target records)) := by
  cases hdry : m.settings.dryRun with
  | true =>
      exact deliver_of_dry hdry
  | false =>
      have himport :=
        m.importer.importAll_eq target m.importer_settled c.batches [] records hworkers
      exact deliver_of_not_overflows hdry himport hfits

end Deliver

section Conclude

variable {m : Migration} {target : Target} {c : Circumstances} {step : MigrationStep}
  {calls : List Call} {given : Option VerificationInput} {prepared : Option Prepared}
  {done : Delivered}

theorem check_of_not_verifies
    (hverifies : step.verifies = false) :
    m.check target c step calls given prepared = (calls, .ok none) := by
  simp only [check, hverifies, Bool.false_eq_true, if_false]

/-- A check with an input ends as its verification does. -/
theorem check_of_input
    (hverifies : step.verifies = true)
    {input : VerificationInput}
    (hinput : inputOf c given prepared = .ok input) :
    (m.check target c step calls given prepared).2 =
      ((verify target c.lookups m.settings.workers calls input.sourceCount
        input.sample).ending.map some).mapError .fault := by
  simp only [check, hverifies, if_true, hinput]

/-- Verifying sends nothing. -/
theorem requestsOf_conclude :
    requestsOf (m.conclude target c step calls given prepared done).calls =
      requestsOf calls := by
  simp only [conclude, check]
  split
  · split
    · rfl
    · exact requestsOf_verify target c.lookups m.settings.workers calls _ _
  · rfl

theorem conclude_ok
    {report : MigrationReport}
    (hok : (m.conclude target c step calls given prepared done).ending = .ok report) :
    ∃ v, report = m.report c step prepared done v := by
  simp only [conclude] at hok
  cases hcheck : (m.check target c step calls given prepared).2 with
  | error stop =>
      rw [hcheck] at hok
      cases hok
  | ok v =>
      rw [hcheck] at hok
      exact ⟨v, (Except.ok.inj hok).symm⟩

theorem conclude_of_no_input
    (hverifies : step.verifies = true) :
    m.conclude target c step calls none none done =
      ⟨calls, [], .error (.error (.config .noVerificationInput))⟩ := by
  simp [conclude, check, hverifies, inputOf, Except.map]

/-- A run that imports always has an input for its verification. -/
theorem exists_inputOf_prepared
    (given : Option VerificationInput)
    (p : Prepared) :
    ∃ input, inputOf c given (some p) = .ok input := by
  cases given <;> exact ⟨_, rfl⟩

/-- The last stage of a run that has what it needs comes to its report, unless the service breaks
down on a count. -/
theorem conclude_ok_or_crash
    (hworkers : m.settings.workers ≤ permitLimit)
    (hinput : step.verifies = true → ∃ input, inputOf c given prepared = .ok input) :
    (∃ report, (m.conclude target c step calls given prepared done).ending = .ok report) ∨
      target.BreaksDown (m.conclude target c step calls given prepared done) := by
  cases hverifies : step.verifies with
  | false =>
      left
      simp [conclude, check, hverifies, Except.map]
  | true =>
      obtain ⟨input, hinput⟩ := hinput hverifies
      simp only [conclude, check, hverifies, if_true, hinput]
      rcases verify_ok_or_crash target c.lookups calls input.sourceCount input.sample hworkers
        with ⟨v, hv⟩ | ⟨hfault, hcrash⟩
      · left
        rw [hv]
        exact ⟨_, rfl⟩
      · right
        refine ⟨?_, hcrash⟩
        rw [hfault]
        rfl

end Conclude

section Courses

variable {m : Migration} {target : Target} {c : Circumstances} {step : MigrationStep}
  {records : List SourceRecord} {given : Option VerificationInput} {outcome : DedupOutcome}

/-- The last stage of a run whose records are deduplicated and delivered. -/
def concludeWith
    (m : Migration)
    (target : Target)
    (c : Circumstances)
    (step : MigrationStep)
    (given : Option VerificationInput)
    (outcome : DedupOutcome) : Run :=
  m.conclude target c step (m.sendings outcome.records) given (some (m.preparedOf outcome))
    (m.delivered target outcome.records)

theorem eq_verify_of_not_imports
    (himports : step.imports = false) :
    step = .verify := by
  cases step with
  | importRecords => cases himports
  | verify => rfl
  | all => cases himports

/-- A run whose records are refused ends there, and no call is made. -/
theorem run_of_refused
    (himports : step.imports = true)
    {stop : Stop}
    (hdedup : deduplicate m.settings.dedup records = .error stop) :
    m.run target c step records given = ⟨[], [], .error stop⟩ := by
  simp only [run, himports, if_true, prepare, hdedup]

theorem run_of_delivered
    (himports : step.imports = true)
    (hdedup : deduplicate m.settings.dedup records = .ok outcome)
    (hdeliver : m.deliver target c outcome.records =
      (m.sendings outcome.records, .ok (m.delivered target outcome.records))) :
    m.run target c step records given = m.concludeWith target c step given outcome := by
  have hrecords : (m.preparedOf outcome).records = outcome.records := rfl
  simp only [run, himports, if_true, prepare_eq hdedup, hrecords, hdeliver, concludeWith]

theorem run_of_imports
    (hworkers : m.settings.workers ≤ permitLimit)
    (himports : step.imports = true)
    (hdedup : deduplicate m.settings.dedup records = .ok outcome)
    (hfits : ¬ m.Overflows target outcome.records) :
    m.run target c step records given = m.concludeWith target c step given outcome := by
  exact run_of_delivered himports hdedup (deliver_eq hworkers hfits)

theorem run_of_not_imports
    (himports : step.imports = false) :
    m.run target c step records given = m.conclude target c step [] given none ⟨[], {}⟩ := by
  simp only [run, himports, Bool.false_eq_true, if_false]

/-- A run that imports and ends with a report has deduplicated and delivered its records. -/
theorem exists_of_run_ok
    (himports : step.imports = true)
    {report : MigrationReport}
    (hrun : (m.run target c step records given).ending = .ok report) :
    ∃ outcome, deduplicate m.settings.dedup records = .ok outcome ∧
      m.run target c step records given = m.concludeWith target c step given outcome := by
  cases hdedup : deduplicate m.settings.dedup records with
  | error stop =>
      rw [run_of_refused himports hdedup] at hrun
      cases hrun
  | ok outcome =>
      refine ⟨outcome, rfl, ?_⟩
      simp only [run, himports, if_true, prepare_eq hdedup] at hrun ⊢
      have hrecords : (m.preparedOf outcome).records = outcome.records := rfl
      rw [hrecords] at hrun ⊢
      rcases hdeliver : m.deliver target c outcome.records with ⟨calls, fault | done⟩
      · rw [hdeliver] at hrun
        cases hrun
      · rw [← hdeliver, deliver_of_ok (congrArg Prod.snd hdeliver)]
        rfl

/-- A run whose counters do not overflow and that is refused neither for its records nor for want of
an input comes to its report, unless the service breaks down on a count. -/
theorem run_ok_or_crash
    (hworkers : m.settings.workers ≤ permitLimit)
    (hfits : ¬ m.RunOverflows target step records)
    (haccepts : step.imports = true → ¬ m.settings.dedup.Refuses records)
    (hinput : step = .verify → given ≠ none) :
    (∃ report, (m.run target c step records given).ending = .ok report) ∨
      target.BreaksDown (m.run target c step records given) := by
  cases himports : step.imports with
  | true =>
      obtain ⟨outcome, hdedup⟩ := exists_deduplicate_ok_iff.mpr (haccepts himports)
      rw [run_of_imports hworkers himports hdedup fun hoverflows =>
        hfits ⟨himports, outcome, hdedup, hoverflows⟩]
      exact conclude_ok_or_crash hworkers fun _ => exists_inputOf_prepared given _
  | false =>
      rw [run_of_not_imports himports]
      refine conclude_ok_or_crash hworkers fun _ => ?_
      cases hgiven : given with
      | none => exact absurd hgiven (hinput (eq_verify_of_not_imports himports))
      | some input => exact ⟨input, rfl⟩

theorem exists_run_ok
    (hworkers : m.settings.workers ≤ permitLimit)
    (hfits : ¬ m.RunOverflows target step records)
    (hcounts : target.Counts)
    (haccepts : step.imports = true → ¬ m.settings.dedup.Refuses records)
    (hinput : step = .verify → given ≠ none) :
    ∃ report, (m.run target c step records given).ending = .ok report := by
  refine (run_ok_or_crash hworkers hfits haccepts hinput).resolve_right ?_
  exact fun hcrash => hcounts.not_countCrash _ hcrash.calls

end Courses

theorem unsteadyTarget_counts :
    Importer.unsteadyTarget.Counts := by
  intro calls
  constructor
  · intro h
    cases h
  · intro h
    cases h

theorem exists_report_unsteadyTarget
    (step : MigrationStep)
    (himports : step.imports = true)
    (records : List SourceRecord) :
    ∃ report, (plainMigration.run Importer.unsteadyTarget plainCircumstances step records
      none).ending = .ok report := by
  refine exists_run_ok (by decide) (not_runOverflows_of_unchecked nofun) unsteadyTarget_counts
    ?_ ?_
  · rintro - ⟨hstrategy, -⟩
    cases hstrategy
  · rintro rfl
    cases himports

end Migration
end AccountMigration
