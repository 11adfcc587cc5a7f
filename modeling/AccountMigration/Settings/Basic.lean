import AccountMigration.Settings.Choice
import AccountMigration.Settings.RoleMap

/-!
# The settings of a migration

All that a run can be told, grouped by the part of the run that looks at it, with the
default of every setting.  A run needs batches of at least one record and at least one
worker; `Settings.validate` refuses anything else.
-/

namespace AccountMigration

/-- How duplicate records are found and resolved. -/
structure DedupRules where
  key : DedupKey := .email
  strategy : DedupStrategy := .keepLatest
  deriving DecidableEq

/-- How records become entries of a request. -/
structure EntryRules where
  ids : IdStrategy := .preserveUuid
  passwords : PasswordStrategy := .transfer
  /-- The algorithm that the hashes of the source are expected to have. -/
  algorithm : String := "bcrypt"
  roles : RoleMap := .empty
  deriving DecidableEq

/-- Where the identity service is and how a client makes itself known to it. -/
structure ServiceAddress where
  baseUrl : String := "http://localhost:3000"
  apiKey : String := ""
  applicationId : String := ""
  timeoutMillis : Nat := 30000
  deriving DecidableEq

/-- The settings of a migration. -/
structure Settings where
  batchSize : Nat := 50
  workers : Nat := 4
  dryRun : Bool := true
  dedup : DedupRules := {}
  onConflict : ConflictStrategy := .skip
  entries : EntryRules := {}
  service : ServiceAddress := {}
  deriving DecidableEq

namespace Settings

/-- Settings that a run can work with. -/
def Valid
    (s : Settings) : Prop :=
  s.batchSize ≠ 0 ∧ s.workers ≠ 0

instance
    (s : Settings) :
    Decidable s.Valid :=
  inferInstanceAs (Decidable (_ ∧ _))

/-- Refuse settings without a batch size or without workers. -/
def validate
    (s : Settings) : Except ConfigError Unit :=
  if s.batchSize = 0 then .error .zeroBatchSize
  else if s.workers = 0 then .error .zeroWorkers
  else .ok ()

/-- Settings pass exactly when a run can work with them. -/
theorem validate_eq_ok_iff
    (s : Settings) :
    s.validate = .ok () ↔ s.Valid := by
  unfold validate Valid
  split
  · simp [*]
  · split <;> simp [*]

end Settings

end AccountMigration
