import AccountMigration.Proofs.Migration.Failure

/-!
# Dry runs

A dry run sends nothing.  What it reports about the records is what a live run of the same settings
reports, although a dry run counts the records that are left and a live run adds up what its batches
contribute.  A dry run adds nothing up, so that no counter of it overflows, and it does not foretell
that those of the live run do; nor is it spared a count on which the service breaks down.

* `Migration.withDryRun`: settings that differ in nothing but whether a run is a dry run.
* `Run.EndAlike`: two runs that fail alike, or report the same about their records.
* `Migration.dry_report`: what the report of a dry run says about the import.
* `Migration.dry_run_foretells_live`: dry runs send nothing and end like live runs.
* `Migration.count_stops_both`: two runs that a count keeps from ending alike.
-/

namespace AccountMigration

/-- The same migration as a dry run or as a live run. -/
def Migration.withDryRun
    (m : Migration)
    (dryRun : Bool) : Migration where
  settings := { m.settings with dryRun }
  valid := m.valid
  counting := m.counting

/-- Reports that agree on the records: on what was found out about them and on how many of them
were imported. -/
structure MigrationReport.AgreesOnRecords
    (r s : MigrationReport) : Prop where
  dedupStats : r.dedupStats = s.dedupStats
  conflicts : r.conflicts = s.conflicts
  passwordAlgorithm : r.passwordAlgorithm = s.passwordAlgorithm
  total : r.importStats.total = s.importStats.total

/-- Runs that both fail with the same error, or give the same warnings and end with reports that
agree on the records. -/
inductive Run.EndAlike
    (a b : Run) : Prop where
  | failed (cause : MigrationError) :
      a.ending = .error (.error cause) → b.ending = .error (.error cause) → EndAlike a b
  | reported (r s : MigrationReport) :
      a.ending = .ok r → b.ending = .ok s → a.warnings = b.warnings → r.AgreesOnRecords s →
        EndAlike a b

namespace Migration

variable {m : Migration} {target : Target} {c d : Circumstances} {step : MigrationStep}
  {records : List SourceRecord} {given : Option VerificationInput} {outcome : DedupOutcome}

/-- The counters of a dry run do not overflow. -/
theorem not_runOverflows_of_dry
    (hdry : m.settings.dryRun = true) :
    ¬ m.RunOverflows target step records := by
  rintro ⟨-, _, -, hlive, -⟩
  rw [hdry] at hlive
  cases hlive

theorem requestsOf_dry
    (hdry : m.settings.dryRun = true) :
    requestsOf (m.run target c step records given).calls = [] := by
  cases himports : step.imports with
  | false =>
      rw [run_of_not_imports himports, requestsOf_conclude]
      rfl
  | true =>
      cases hdedup : deduplicate m.settings.dedup records with
      | error stop =>
          rw [run_of_refused himports hdedup]
          rfl
      | ok outcome =>
          rw [run_of_delivered himports hdedup (deliver_of_dry hdry), concludeWith,
            requestsOf_conclude, sendings_of_dry hdry]
          rfl

/-- The report of a dry run has no results, and of the counters only the total. -/
theorem dry_report
    (hdry : m.settings.dryRun = true)
    {report : MigrationReport}
    (hrun : (m.run target c step records given).ending = .ok report) :
    report.importResults = [] ∧ report.importStats = { total := report.importStats.total } := by
  cases himports : step.imports with
  | false =>
      rw [run_of_not_imports himports] at hrun
      obtain ⟨v, rfl⟩ := conclude_ok hrun
      exact ⟨rfl, rfl⟩
  | true =>
      obtain ⟨outcome, -, hcourse⟩ := exists_of_run_ok himports hrun
      rw [hcourse] at hrun
      obtain ⟨v, rfl⟩ := conclude_ok hrun
      constructor
      · exact congrArg Delivered.results (delivered_of_dry hdry target outcome.records)
      · have hstats := congrArg Delivered.stats (delivered_of_dry hdry target outcome.records)
        simp only [report, hstats]

/-- What the last stages of two runs report about the same records does not depend on how the
records were delivered. -/
theorem endAlike_concludeWith
    {other : Migration}
    (hentries : other.settings.entries = m.settings.entries)
    {r s : MigrationReport}
    (hr : (m.concludeWith target c step given outcome).ending = .ok r)
    (hs : (other.concludeWith target d step given outcome).ending = .ok s) :
    (m.concludeWith target c step given outcome).EndAlike
      (other.concludeWith target d step given outcome) := by
  obtain ⟨v, hrv⟩ := conclude_ok hr
  obtain ⟨w, hsw⟩ := conclude_ok hs
  refine .reported r s hr hs ?_ ?_
  · change passwordWarnings m.settings.entries outcome.records =
      passwordWarnings other.settings.entries outcome.records
    rw [hentries]
  · subst hrv hsw
    refine ⟨rfl, rfl, rfl, ?_⟩
    change (m.delivered target outcome.records).stats.total =
      (other.delivered target outcome.records).stats.total
    rw [total_delivered, total_delivered]

/-- A run whose records are not refused comes to its report behind its last stage, or breaks down on
a count or on its counters. -/
theorem ending_of_deduplicate
    (hworkers : m.settings.workers ≤ permitLimit)
    (himports : step.imports = true)
    (hdedup : deduplicate m.settings.dedup records = .ok outcome) :
    (m.run target c step records given = m.concludeWith target c step given outcome ∧
      ∃ report, (m.run target c step records given).ending = .ok report) ∨
    target.BreaksDown (m.run target c step records given) ∨
    m.RunOverflows target step records := by
  by_cases hoverflows : m.Overflows target outcome.records
  · exact Or.inr (Or.inr ⟨himports, outcome, hdedup, hoverflows⟩)
  · rw [run_of_imports hworkers himports hdedup hoverflows]
    rcases conclude_ok_or_crash hworkers fun _ => exists_inputOf_prepared given _ with
      hreport | hcrash
    · exact Or.inl ⟨rfl, hreport⟩
    · exact Or.inr (Or.inl hcrash)

/-- A dry run and a live run of the same records end alike, unless the service breaks down on a
count of one of them or the counters of the live run overflow. -/
theorem endAlike_dry_live
    (hworkers : m.settings.workers ≤ permitLimit)
    (himports : step.imports = true) :
    ((m.withDryRun true).run target c step records given).EndAlike
        ((m.withDryRun false).run target d step records given) ∨
      target.BreaksDown ((m.withDryRun true).run target c step records given) ∨
      target.BreaksDown ((m.withDryRun false).run target d step records given) ∨
      (m.withDryRun false).RunOverflows target step records := by
  cases hdedup : deduplicate m.settings.dedup records with
  | error stop =>
      obtain ⟨_, _, _, rfl⟩ := duplicateKey_of_deduplicate hdedup
      rw [run_of_refused (m := m.withDryRun true) himports hdedup,
        run_of_refused (m := m.withDryRun false) himports hdedup]
      exact Or.inl (.failed _ rfl rfl)
  | ok outcome =>
      rcases ending_of_deduplicate (m := m.withDryRun true) hworkers himports hdedup with
        ⟨hdry, r, hr⟩ | hcrash | hoverflows
      · rcases ending_of_deduplicate (m := m.withDryRun false) hworkers himports hdedup with
          ⟨hlive, s, hs⟩ | hcrash | hoverflows
        · rw [hdry] at hr ⊢
          rw [hlive] at hs ⊢
          exact Or.inl (endAlike_concludeWith rfl hr hs)
        · exact Or.inr (Or.inr (Or.inl hcrash))
        · exact Or.inr (Or.inr (Or.inr hoverflows))
      · exact Or.inr (Or.inl hcrash)
      · exact absurd hoverflows (not_runOverflows_of_dry rfl)

/-- Where no count breaks down and no counter overflows, the two runs always end alike. -/
theorem endAlike_of_counts
    (hworkers : m.settings.workers ≤ permitLimit)
    (hcounts : target.Counts)
    (himports : step.imports = true)
    (hfits : ¬ (m.withDryRun false).RunOverflows target step records) :
    ((m.withDryRun true).run target c step records given).EndAlike
      ((m.withDryRun false).run target d step records given) := by
  rcases endAlike_dry_live hworkers himports with halike | hcrash | hcrash | hoverflows
  · exact halike
  · exact absurd hcrash.calls (hcounts.not_countCrash _)
  · exact absurd hcrash.calls (hcounts.not_countCrash _)
  · exact absurd hoverflows hfits

/--
What a dry run shows.  Whatever the step, it sends nothing, and its report has no results and
none of the counters but the total.  When it imports and the service does not break down on a count,
it fails with the same error as the live run of the same settings, or both end with reports that
agree on the records, also when clock, order of completion and draw are different; only the counters
of the live run must not overflow.  A service that breaks down on a count keeps a run from its
report. -/
theorem dry_run_foretells_live
    (m : Migration)
    (target : Target)
    (records : List SourceRecord)
    (given : Option VerificationInput)
    (hworkers : m.settings.workers ≤ permitLimit) :
    (∀ c step,
      requestsOf ((m.withDryRun true).run target c step records given).calls = [] ∧
      ∀ report, ((m.withDryRun true).run target c step records given).ending = .ok report →
        report.importResults = [] ∧
          report.importStats = { total := report.importStats.total }) ∧
    ∀ (step : MigrationStep), step.imports = true → ∀ c d,
      (((m.withDryRun true).run target c step records given).EndAlike
          ((m.withDryRun false).run target d step records given) ∨
        target.BreaksDown ((m.withDryRun true).run target c step records given) ∨
        target.BreaksDown ((m.withDryRun false).run target d step records given) ∨
        (m.withDryRun false).RunOverflows target step records) ∧
      (target.Counts → ¬ (m.withDryRun false).RunOverflows target step records →
        ((m.withDryRun true).run target c step records given).EndAlike
          ((m.withDryRun false).run target d step records given)) := by
  constructor
  · intro c step
    exact ⟨requestsOf_dry (m := m.withDryRun true) rfl,
      fun report => dry_report (m := m.withDryRun true) rfl⟩
  · intro step himports c d
    exact ⟨endAlike_dry_live hworkers himports,
      fun hcounts => endAlike_of_counts hworkers hcounts himports⟩

def pairedMigration : Migration where
  settings := { batchSize := 2 }
  valid := by decide

/-- Four records, two of which are of one account. -/
def rehearsedRecords : List SourceRecord :=
  [{ id := "1", email := some "ada@x.org" },
    { id := "2", email := some "eve@x.org" },
    { id := "3", email := some " Ada@X.org" },
    { id := "4", email := some "bob@x.org" }]

/-- A dry run and a live run, of which the live run has a batch accepted and another refused. -/
theorem dry_run_foretells_rehearsed :
    pairedMigration.settings.workers ≤ permitLimit ∧
    MigrationStep.all.imports = true ∧
    Importer.unsteadyTarget.Counts ∧
    ¬ (pairedMigration.withDryRun false).RunOverflows Importer.unsteadyTarget .all
      rehearsedRecords ∧
    requestsOf ((pairedMigration.withDryRun true).run Importer.unsteadyTarget plainCircumstances
      .all rehearsedRecords none).calls = [] ∧
    (∃ report, ((pairedMigration.withDryRun true).run Importer.unsteadyTarget plainCircumstances
        .all rehearsedRecords none).ending = .ok report ∧
      report.importResults = [] ∧
      report.importStats = { total := report.importStats.total }) ∧
    ((pairedMigration.withDryRun true).run Importer.unsteadyTarget plainCircumstances .all
        rehearsedRecords none).EndAlike
      ((pairedMigration.withDryRun false).run Importer.unsteadyTarget plainCircumstances .all
        rehearsedRecords none) := by
  have hworkers : pairedMigration.settings.workers ≤ permitLimit := by decide
  have hfits : ¬ (pairedMigration.withDryRun false).RunOverflows Importer.unsteadyTarget .all
      rehearsedRecords := not_runOverflows_of_unchecked nofun
  obtain ⟨hdry, halike⟩ := dry_run_foretells_live pairedMigration Importer.unsteadyTarget
    rehearsedRecords none hworkers
  obtain ⟨hsilent, hreports⟩ := hdry plainCircumstances .all
  have hends : ∃ report, ((pairedMigration.withDryRun true).run Importer.unsteadyTarget
      plainCircumstances .all rehearsedRecords none).ending = .ok report := by
    refine exists_run_ok (m := pairedMigration.withDryRun true) hworkers
      (not_runOverflows_of_dry rfl) unsteadyTarget_counts ?_ (by rintro ⟨⟩)
    rintro - ⟨hstrategy, -⟩
    cases hstrategy
  obtain ⟨report, hreport⟩ := hends
  exact ⟨hworkers, rfl, unsteadyTarget_counts, hfits, hsilent,
    ⟨report, hreport, hreports report hreport⟩,
    (halike .all rfl plainCircumstances plainCircumstances).2 unsteadyTarget_counts hfits⟩

/-- A service that imports what it is sent and breaks down when it is to count its users. -/
def countlessTarget : Target where
  reply _ call :=
    match call with
    | .bulkImport _ => .answered {}
    | .countUsers => .crashed
    | .countProfiles => .answered (0 : UInt64)
    | .findUser _ => .answered none

/-- A count on which the service breaks down stops the dry run and the live run, so that neither
fails with an error nor ends with a report. -/
theorem count_stops_both :
    pairedMigration.settings.workers ≤ permitLimit ∧
    MigrationStep.all.imports = true ∧
    (∀ b, ((pairedMigration.withDryRun b).run countlessTarget plainCircumstances .all
      rehearsedRecords none).ending = .error (.fault .countCrashed)) ∧
    ¬ ((pairedMigration.withDryRun true).run countlessTarget plainCircumstances .all
        rehearsedRecords none).EndAlike
      ((pairedMigration.withDryRun false).run countlessTarget plainCircumstances .all
        rehearsedRecords none) := by
  have hworkers : pairedMigration.settings.workers ≤ permitLimit := by decide
  have hcrashes : ∀ b, ((pairedMigration.withDryRun b).run countlessTarget plainCircumstances .all
      rehearsedRecords none).ending = .error (.fault .countCrashed) := by
    intro b
    obtain ⟨outcome, hdedup⟩ : ∃ outcome,
        deduplicate pairedMigration.settings.dedup rehearsedRecords = .ok outcome := by
      rw [exists_deduplicate_ok_iff]
      rintro ⟨hstrategy, -⟩
      cases hstrategy
    rw [run_of_imports (m := pairedMigration.withDryRun b) hworkers rfl hdedup
      (not_overflows_of_unchecked nofun)]
    rfl
  refine ⟨hworkers, rfl, hcrashes, ?_⟩
  rintro (⟨_, hfailed, -⟩ | ⟨_, _, hreported, -⟩)
  · rw [hcrashes true] at hfailed
    cases hfailed
  · rw [hcrashes true] at hreported
    cases hreported

end Migration
end AccountMigration
