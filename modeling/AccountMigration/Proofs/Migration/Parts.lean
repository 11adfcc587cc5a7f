import AccountMigration.Migration.Run

/-!
# The parts of a whole run

A run of all steps that is not a dry run and is given no input deduplicates, imports what is
left, and verifies with a sample of what was imported.

* `Migration.importing` and `Migration.verifying`: the two parts that call the service.
* `Migration.run_all_ok`: a run that comes to its end has come through the verification.
* `Migration.exists_run_all_ok`: a run whose parts come to their ends does so too.
* `Migration.plainMigration` and `Migration.plainCircumstances`: a run to try things out on.
-/

namespace AccountMigration
namespace Migration

/-- The import of a run. -/
def importing
    (m : Migration)
    (target : Target)
    (c : Circumstances)
    (records : List SourceRecord) : Importing :=
  m.importer.importAll target c.batches [] records

/-- The verification of a run that is given no input. -/
def verifying
    (m : Migration)
    (target : Target)
    (c : Circumstances)
    (outcome : DedupOutcome) : Verifying :=
  verify target c.lookups m.settings.workers (m.importing target c outcome.records).calls
    outcome.stats.total (c.draw.sample outcome.records sampleLimit)

/-- The records of a run once they are deduplicated. -/
def preparedOf
    (m : Migration)
    (outcome : DedupOutcome) : Prepared where
  records := outcome.records
  conflicts := outcome.conflicts.map Conflict.summary
  stats := outcome.stats
  algorithm := detectedAlgorithm outcome.records
  warnings := passwordWarnings m.settings.entries outcome.records

variable {m : Migration} {target : Target} {c : Circumstances} {records : List SourceRecord}
  {outcome : DedupOutcome}

theorem prepare_eq
    (hdedup : deduplicate m.settings.dedup records = .ok outcome) :
    m.prepare records = .ok (m.preparedOf outcome) := by
  rw [prepare, hdedup]
  rfl

/-- How a whole run ends: with the first part that does not come to its end, or with a report
of the import and the verification. -/
theorem run_all_ending
    (hlive : m.settings.dryRun = false)
    (hdedup : deduplicate m.settings.dedup records = .ok outcome) :
    (m.run target c .all records none).ending = (do
      let (results, importer) ← (m.importing target c outcome.records).ending
      let v ← (m.verifying target c outcome).ending
      return m.report c .all (some (m.preparedOf outcome)) ⟨results, importer.stats⟩
        (some v)).mapError .fault := by
  have himports : MigrationStep.all.imports = true := rfl
  have hverifies : MigrationStep.all.verifies = true := rfl
  simp only [run, himports, if_true, prepare_eq hdedup, deliver, hlive, Bool.false_eq_true,
    if_false, importing, verifying]
  cases himport : (m.importer.importAll target c.batches []
      outcome.records).ending with
  | error fault =>
      simp only [preparedOf, himport]
      rfl
  | ok delivered =>
      obtain ⟨results, importer⟩ := delivered
      simp only [preparedOf, himport, Except.map, conclude, check, hverifies, if_true, inputOf]
      cases verify target c.lookups m.settings.workers _ outcome.stats.total _ with
      | mk calls ending =>
          cases ending <;> rfl

/-- A whole run that ends with a report has come through its verification. -/
theorem run_all_ok
    (hlive : m.settings.dryRun = false)
    (hdedup : deduplicate m.settings.dedup records = .ok outcome)
    {report : MigrationReport}
    (hrun : (m.run target c .all records none).ending = .ok report) :
    ∃ v, report.verification = some v ∧ (m.verifying target c outcome).ending = .ok v := by
  rw [run_all_ending hlive hdedup] at hrun
  cases himport : (m.importing target c outcome.records).ending with
  | error fault =>
      rw [himport] at hrun
      cases hrun
  | ok delivered =>
      rw [himport] at hrun
      cases hverify : (m.verifying target c outcome).ending with
      | error fault =>
          rw [hverify] at hrun
          cases hrun
      | ok v =>
          rw [hverify] at hrun
          cases hrun
          exact ⟨v, rfl, rfl⟩

/-- A whole run ends with a report when its import and its verification come to their ends. -/
theorem exists_run_all_ok
    (hlive : m.settings.dryRun = false)
    (hdedup : deduplicate m.settings.dedup records = .ok outcome)
    {delivered : List ImportResult × Importer}
    (himport : (m.importing target c outcome.records).ending = .ok delivered)
    {v : VerificationReport}
    (hverify : (m.verifying target c outcome).ending = .ok v) :
    ∃ report, (m.run target c .all records none).ending = .ok report := by
  rw [run_all_ending hlive hdedup, himport, hverify]
  exact ⟨_, rfl⟩

/-- A live run with the default settings. -/
def plainMigration : Migration where
  settings := { dryRun := false }
  valid := by decide

/-- The first moment of 2024. -/
def firstMoment : Timestamp where
  date := ⟨2024, 1, 1, by decide, by decide, by decide⟩
  second := 0
  nano := 0
  second_lt := by decide
  nano_lt := by decide
  leap_second := by decide

/-- A run that takes no time, with tasks that finish in order and a sample from the front. -/
def plainCircumstances : Circumstances where
  startedAt := firstMoment
  finishedAt := firstMoment

end Migration
end AccountMigration
