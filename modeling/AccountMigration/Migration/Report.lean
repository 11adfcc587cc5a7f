import AccountMigration.Dedup.Pass
import AccountMigration.Import.Stats
import AccountMigration.Password
import AccountMigration.Verification.Report

/-!
# The report of a migration

What a run has done, step by step, and its JSON with one member for each field in the order
of declaration.  Conflicts are named by ids only, so a report holds no password hash.
-/

namespace AccountMigration

/-- Two records of one key, named by their ids. -/
structure ConflictSummary where
  key : String
  existingId : String
  duplicateId : String
  deriving DecidableEq

/-- The summary of a conflict. -/
def Conflict.summary
    (c : Conflict) : ConflictSummary :=
  ⟨c.key, c.existing.id, c.duplicate.id⟩

/-- The report of a migration. -/
structure MigrationReport where
  step : MigrationStep
  dryRun : Bool
  startedAt : Timestamp
  finishedAt : Option Timestamp
  dedupStats : DedupStats
  conflicts : List ConflictSummary
  passwordAlgorithm : Option HashAlgorithm
  importStats : ImportStats
  importResults : List ImportResult
  verification : Option VerificationReport
  verificationPassed : Option Bool
  deriving DecidableEq

/-- Counts with all of their fields. -/
def DedupStats.toJson
    (s : DedupStats) : Json :=
  .record
    [("total", .nat s.total),
      ("unique", .nat s.unique),
      ("duplicates", .nat s.duplicates),
      ("skipped_no_key", .nat s.skippedNoKey)]

/-- A summary with all of its fields. -/
def ConflictSummary.toJson
    (c : ConflictSummary) : Json :=
  .record
    [("key", .text c.key),
      ("existing_id", .text c.existingId),
      ("duplicate_id", .text c.duplicateId)]

namespace MigrationReport

/-- A report with all of its fields. -/
def toJson
    (r : MigrationReport) : Json :=
  .record
    [("step", .text r.step.name),
      ("dry_run", .bool r.dryRun),
      ("started_at", r.startedAt.toJson),
      ("finished_at", .ofOption Timestamp.toJson r.finishedAt),
      ("dedup_stats", r.dedupStats.toJson),
      ("conflicts", .list ConflictSummary.toJson r.conflicts),
      ("password_algorithm", .ofOption (fun a => .text a.name) r.passwordAlgorithm),
      ("import_stats", r.importStats.toJson),
      ("import_results", .list ImportResult.toJson r.importResults),
      ("verification", .ofOption VerificationReport.toJson r.verification),
      ("verification_passed", .ofOption .bool r.verificationPassed)]

/-- The indented text of a report. -/
def toText
    (r : MigrationReport) : String :=
  r.toJson.toPrettyText

end MigrationReport

end AccountMigration
