import AccountMigration.Import.Importer
import AccountMigration.Migration.Report
import AccountMigration.Verification.Verifier

/-!
# Runs

A run has three parts: records are deduplicated and their password hashes inspected, the
records are imported, and the service is verified.  The step says which parts are carried
out, and in a dry run nothing is imported.

* `Migration` holds settings that a run can work with.
* `Circumstances` are what a run does not decide: clock, order of completion, and draw.
* `Migration.prepare`, `Migration.deliver` and `Migration.check` are the three parts.
* `Migration.run` is the whole run; it tells the calls that were made and the warnings that
  were given, however it ends.
-/

namespace AccountMigration

open Text

/-- A migration with settings that a run can work with. -/
structure Migration where
  settings : Settings
  valid : settings.Valid
  counting : Counting := .wrapping

/-- The migration of settings, unless they are refused. -/
def Migration.ofSettings
    (s : Settings) : Except MigrationError Migration :=
  match h : s.validate with
  | .error cause => .error (.config cause)
  | .ok () => .ok { settings := s, valid := (s.validate_eq_ok_iff).mp h }

/-- What a run does not decide. -/
structure Circumstances where
  startedAt : Timestamp
  finishedAt : Timestamp
  /-- The order in which batches finish. -/
  batches : Schedule := .inOrder
  /-- The order in which lookups finish. -/
  lookups : Schedule := .inOrder
  draw : Draw := .front

/-- The source count and the sample that a verification is given. -/
structure VerificationInput where
  sourceCount : Nat
  sample : List SampledUser
  deriving DecidableEq

/-- A warning about password hashes. -/
inductive Warning where
  /-- Most hashes are of another algorithm than the one that is expected. -/
  | unexpectedAlgorithm (detected : HashAlgorithm) (expected : String)
  /-- Some hashes are no whole bcrypt hashes. -/
  | malformedBcrypt (count : Nat)
  deriving DecidableEq

/-- The wording of a warning. -/
def Warning.message : Warning → String
  | .unexpectedAlgorithm detected expected =>
      "password hashes look like " ++ detected.name ++ " but " ++ expected
        ++ " is configured; transferred hashes may not verify"
  | .malformedBcrypt count => toString count ++ " bcrypt hashes are malformed"

/-- The password hashes of records, as they are, without those that are blank. -/
def hashesOf
    (records : List SourceRecord) : List String :=
  (records.filterMap (·.passwordHash)).filter fun hash => !isBlankText hash

/-- The algorithm of most password hashes, absent when there are none. -/
def detectedAlgorithm
    (records : List SourceRecord) : Option HashAlgorithm :=
  let hashes := hashesOf records
  if hashes = [] then none else some (.ofSample hashes)

/-- The warning about an algorithm that is not expected. -/
def algorithmWarnings
    (rules : EntryRules)
    (detected : HashAlgorithm) : List Warning :=
  let expected := lowerAscii (trim rules.algorithm)
  if detected.name = expected then [] else [.unexpectedAlgorithm detected expected]

/-- The warning about hashes that are no whole bcrypt hashes. -/
def malformedWarnings
    (detected : HashAlgorithm)
    (hashes : List String) : List Warning :=
  let malformed := hashes.countP fun hash => !isCompleteBcrypt hash
  if detected = .bcrypt ∧ 0 < malformed then [.malformedBcrypt malformed] else []

/-- The warnings about the password hashes of records, when they are to be transferred. -/
def passwordWarnings
    (rules : EntryRules)
    (records : List SourceRecord) : List Warning :=
  match rules.passwords, detectedAlgorithm records with
  | .transfer, some detected =>
      algorithmWarnings rules detected ++ malformedWarnings detected (hashesOf records)
  | _, _ => []

/-- What is known once the records are deduplicated. -/
structure Prepared where
  records : List SourceRecord
  conflicts : List ConflictSummary
  stats : DedupStats
  algorithm : Option HashAlgorithm
  warnings : List Warning
  deriving DecidableEq

/-- What is known once the records are imported. -/
structure Delivered where
  results : List ImportResult
  stats : ImportStats
  deriving DecidableEq

/-- What a run does: the calls, the warnings, and how it ends. -/
structure Run where
  calls : List Call
  warnings : List Warning
  ending : Except Stop MigrationReport

namespace Migration

/-- Deduplicate records and inspect their password hashes. -/
def prepare
    (m : Migration)
    (records : List SourceRecord) : Except Stop Prepared :=
  match deduplicate m.settings.dedup records with
  | .error stop => .error stop
  | .ok outcome =>
      .ok
        { records := outcome.records
          conflicts := outcome.conflicts.map Conflict.summary
          stats := outcome.stats
          algorithm := detectedAlgorithm outcome.records
          warnings := passwordWarnings m.settings.entries outcome.records }

/-- The importer of a run. -/
def importer
    (m : Migration) : Importer :=
  .ofSettings m.settings m.counting

/-- Import records, or only count them in a dry run. -/
def deliver
    (m : Migration)
    (target : Target)
    (c : Circumstances)
    (records : List SourceRecord) : List Call × Except Fault Delivered :=
  if m.settings.dryRun then
    ([], .ok ⟨[], { total := records.length }⟩)
  else
    let importing := m.importer.importAll target c.batches [] records
    (importing.calls, importing.ending.map fun (results, importer) =>
      ⟨results, importer.stats⟩)

/-- The input of a verification: the one given, or one that is drawn from the records. -/
def inputOf
    (c : Circumstances)
    (given : Option VerificationInput)
    (prepared : Option Prepared) : Except MigrationError VerificationInput :=
  match given, prepared with
  | some input, _ => .ok input
  | none, some p => .ok ⟨p.stats.total, c.draw.sample p.records sampleLimit⟩
  | none, none => .error (.config .noVerificationInput)

/-- Verify the service after the given calls, when the step asks for it. -/
def check
    (m : Migration)
    (target : Target)
    (c : Circumstances)
    (step : MigrationStep)
    (calls : List Call)
    (given : Option VerificationInput)
    (prepared : Option Prepared) : List Call × Except Stop (Option VerificationReport) :=
  if step.verifies then
    match inputOf c given prepared with
    | .error cause => (calls, .error (.error cause))
    | .ok input =>
        let verifying :=
          verify target c.lookups m.settings.workers calls input.sourceCount input.sample
        (verifying.calls, (verifying.ending.map some).mapError .fault)
  else (calls, .ok none)

/-- The report of a run that came to its end. -/
def report
    (m : Migration)
    (c : Circumstances)
    (step : MigrationStep)
    (prepared : Option Prepared)
    (delivered : Delivered)
    (verification : Option VerificationReport) : MigrationReport where
  step := step
  dryRun := m.settings.dryRun
  startedAt := c.startedAt
  finishedAt := some c.finishedAt
  dedupStats := (prepared.map (·.stats)).getD {}
  conflicts := (prepared.map (·.conflicts)).getD []
  passwordAlgorithm := prepared.bind (·.algorithm)
  importStats := delivered.stats
  importResults := delivered.results
  verification := verification
  verificationPassed := verification.map (·.passed)

/-- Verify and report, after records were prepared and imported or neither. -/
def conclude
    (m : Migration)
    (target : Target)
    (c : Circumstances)
    (step : MigrationStep)
    (calls : List Call)
    (given : Option VerificationInput)
    (prepared : Option Prepared)
    (delivered : Delivered) : Run :=
  let (calls, ending) := m.check target c step calls given prepared
  { calls
    warnings := (prepared.map (·.warnings)).getD []
    ending := ending.map (m.report c step prepared delivered) }

/-- Carry out the parts of a migration that the step asks for. -/
def run
    (m : Migration)
    (target : Target)
    (c : Circumstances)
    (step : MigrationStep)
    (records : List SourceRecord)
    (given : Option VerificationInput) : Run :=
  if step.imports then
    match m.prepare records with
    | .error stop => ⟨[], [], .error stop⟩
    | .ok prepared =>
        match m.deliver target c prepared.records with
        | (calls, .error fault) => ⟨calls, prepared.warnings, .error (.fault fault)⟩
        | (calls, .ok delivered) =>
            m.conclude target c step calls given (some prepared) delivered
  else
    m.conclude target c step [] given none ⟨[], {}⟩

end Migration

end AccountMigration
