import AccountMigration.Proofs.Dedup.Outcome
import AccountMigration.Proofs.Migration.Stages

/-!
# Reports agree with themselves

A report is put together from four parts of a run: the deduplication, the inspection of password
hashes, the import and the verification.  Whatever the rules and whatever the service replies, the
parts agree with each other and with the records that the run was given.

* `MigrationReport.TellsOfImport`: the parts that tell of an import agree.
* `MigrationReport.TellsOfVerification`: the parts that tell of a verification agree.
* `Migration.run_reports_agree`: the parts of every report agree.
-/

namespace AccountMigration

open Text

/-- A report agrees with the records of a run and with what is left of them. -/
structure MigrationReport.TellsOfImport
    (r : MigrationReport)
    (s : Settings)
    (records : List SourceRecord)
    (outcome : DedupOutcome) : Prop where
  total : r.dedupStats.total = records.length
  unique : r.dedupStats.unique = outcome.records.length
  imported : r.importStats.total = outcome.records.length
  /-- In a live run there is one result for each record that is left. -/
  results_length : s.dryRun = false → r.importResults.length = outcome.records.length
  results_ids : s.dryRun = false →
    r.importResults.map (·.sourceId) = outcome.records.map (·.id)
  conflicts_length : r.conflicts.length = r.dedupStats.duplicates
  /-- A conflict names an earlier and a later record of its key. -/
  conflicts_ids : ∀ conflict ∈ r.conflicts, ∃ earlier later,
    RepeatedKey s.dedup.key records conflict.key earlier later ∧
      conflict.existingId = earlier.id ∧ conflict.duplicateId = later.id
  /-- An algorithm is missing when no record that is left has a hash other than blanks. -/
  algorithm : r.passwordAlgorithm = none ↔
    ∀ record ∈ outcome.records, present? record.passwordHash = none

/-- A report has a verification and its verdict exactly when the step verifies. -/
structure MigrationReport.TellsOfVerification
    (r : MigrationReport)
    (step : MigrationStep) : Prop where
  verification : r.verification.isSome = step.verifies
  passed : r.verificationPassed.isSome = step.verifies
  verdict : r.verificationPassed = r.verification.map (·.passed)

theorem hashesOf_eq_nil_iff
    {records : List SourceRecord} :
    hashesOf records = [] ↔ ∀ r ∈ records, present? r.passwordHash = none := by
  simp only [hashesOf, List.filter_eq_nil_iff, List.mem_filterMap, present?_eq_none_iff,
    Bool.not_eq_eq_eq_not, Bool.not_true, Bool.not_eq_false]
  constructor
  · intro hblank r hr hash hhash
    exact hblank hash ⟨r, hr, hhash⟩
  · rintro hblank hash ⟨r, hr, hhash⟩
    exact hblank r hr hash hhash

theorem detectedAlgorithm_eq_none_iff
    {records : List SourceRecord} :
    detectedAlgorithm records = none ↔ ∀ r ∈ records, present? r.passwordHash = none := by
  rw [← hashesOf_eq_nil_iff]
  unfold detectedAlgorithm
  dsimp only
  split <;> simp [*]

namespace Migration

variable {m : Migration} {target : Target} {c : Circumstances} {step : MigrationStep}
  {records : List SourceRecord} {given : Option VerificationInput} {outcome : DedupOutcome}
  {calls : List Call} {prepared : Option Prepared} {done : Delivered} {report : MigrationReport}

theorem isSome_of_check
    {v : Option VerificationReport}
    (hcheck : (m.check target c step calls given prepared).2 = .ok v) :
    v.isSome = step.verifies := by
  cases hverifies : step.verifies with
  | false =>
      rw [check_of_not_verifies hverifies] at hcheck
      obtain rfl := Except.ok.inj hcheck
      rfl
  | true =>
      cases hinput : inputOf c given prepared with
      | error cause =>
          simp [check, hverifies, hinput] at hcheck
      | ok input =>
          rw [check_of_input hverifies hinput] at hcheck
          generalize (verify target c.lookups m.settings.workers calls input.sourceCount
            input.sample).ending = ending at hcheck
          rcases ending with fault | report
          · cases hcheck
          · obtain rfl := Except.ok.inj hcheck
            rfl

/-- What the last stage reports of its verification. -/
theorem tellsOfVerification_of_conclude
    (hok : (m.conclude target c step calls given prepared done).ending = .ok report) :
    report.TellsOfVerification step := by
  simp only [conclude] at hok
  cases hcheck : (m.check target c step calls given prepared).2 with
  | error stop =>
      rw [hcheck] at hok
      cases hok
  | ok v =>
      rw [hcheck] at hok
      obtain rfl := Except.ok.inj hok
      have hsome := isSome_of_check hcheck
      exact ⟨hsome, (Option.isSome_map ..).trans hsome, rfl⟩

/-- A live delivery has a result for each record in order. -/
theorem map_sourceId_delivered
    (hlive : m.settings.dryRun = false)
    (target : Target)
    (records : List SourceRecord) :
    (m.delivered target records).results.map (·.sourceId) = records.map (·.id) := by
  have hdry : ¬ m.settings.dryRun = true := by simp [hlive]
  rw [delivered, if_neg hdry]
  exact m.importer.map_sourceId_resultsOf target [] records

/-- What the last stage reports of the import. -/
theorem tellsOfImport_of_concludeWith
    (hdedup : deduplicate m.settings.dedup records = .ok outcome)
    (hok : (m.concludeWith target c step given outcome).ending = .ok report) :
    report.TellsOfImport m.settings records outcome := by
  obtain ⟨v, rfl⟩ := conclude_ok hok
  constructor
  case total => exact total_of_deduplicate hdedup
  case unique => exact unique_of_deduplicate hdedup
  case imported => exact total_delivered m target outcome.records
  case results_length =>
    intro hlive
    have hlength := congrArg List.length (map_sourceId_delivered hlive target outcome.records)
    rwa [List.length_map, List.length_map] at hlength
  case results_ids =>
    intro hlive
    exact map_sourceId_delivered hlive target outcome.records
  case conflicts_length => exact (List.length_map ..).trans (duplicates_of_deduplicate hdedup)
  case conflicts_ids =>
    intro conflict hconflict
    obtain ⟨logged, hlogged, rfl⟩ := List.mem_map.mp hconflict
    exact ⟨logged.existing, logged.duplicate, repeatedKey_of_conflict hdedup hlogged, rfl, rfl⟩
  case algorithm => exact detectedAlgorithm_eq_none_iff

/-- Every report agrees with itself.  When the step imports, what it tells of the deduplication,
of the password hashes and of the import agrees with the records of the run; whatever the step, it
has a verification and its verdict exactly when the step verifies. -/
theorem run_reports_agree
    (hrun : (m.run target c step records given).ending = .ok report) :
    (step.imports = true →
      ∃ outcome,
        deduplicate m.settings.dedup records = .ok outcome ∧
        report.TellsOfImport m.settings records outcome) ∧
    report.TellsOfVerification step := by
  cases himports : step.imports with
  | true =>
      obtain ⟨outcome, hdedup, hcourse⟩ := exists_of_run_ok himports hrun
      rw [hcourse] at hrun
      exact ⟨fun _ => ⟨outcome, hdedup, tellsOfImport_of_concludeWith hdedup hrun⟩,
        tellsOfVerification_of_conclude hrun⟩
  | false =>
      rw [run_of_not_imports himports] at hrun
      exact ⟨nofun, tellsOfVerification_of_conclude hrun⟩

/-- Three records: two with one email address, and one of these with a blank password hash. -/
def doubledRecords : List SourceRecord :=
  [{ id := "1", email := some "ada@x.org" },
    { id := "2", email := some "bob@x.org" },
    { id := "3", email := some " Ada@x.org", passwordHash := some " " }]

/-- The report of a run that drops a record agrees with itself. -/
theorem run_reports_doubledRecords :
    ∃ report,
      (plainMigration.run Importer.unsteadyTarget plainCircumstances .all doubledRecords
        none).ending = .ok report ∧
      report.dedupStats.total = 3 ∧
      report.importResults.length = report.dedupStats.unique ∧
      report.verification.isSome = true := by
  obtain ⟨report, hrun⟩ := exists_report_unsteadyTarget .all rfl doubledRecords
  obtain ⟨himport, hverification⟩ := run_reports_agree hrun
  obtain ⟨outcome, -, htells⟩ := himport rfl
  exact ⟨report, hrun, htells.total, (htells.results_length rfl).trans htells.unique.symm,
    hverification.verification⟩

end Migration

end AccountMigration
