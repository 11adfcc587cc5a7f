import AccountMigration.Text.Numeral

/-!
# Errors that end a migration

A run is given up for one of two reasons: its settings cannot be used, or two records have
the same key where that is not allowed.  Each reason is a cause of its own, and `message` is
its wording.
-/

namespace AccountMigration

/-- A setting that is chosen by a word. -/
inductive Setting where
  | dedupKey
  | dedupStrategy
  | conflictStrategy
  | passwordStrategy
  | idStrategy
  | step
  deriving DecidableEq

/-- How a word is refused that the setting does not know. -/
def Setting.refusal : Setting → String
  | .dedupKey => "unsupported dedup key"
  | .dedupStrategy => "unknown dedup strategy"
  | .conflictStrategy => "unknown conflict strategy"
  | .passwordStrategy => "unknown password strategy"
  | .idStrategy => "unknown id strategy"
  | .step => "unknown migration step"

/-- Settings that cannot be used. -/
inductive ConfigError where
  | unknownWord (setting : Setting) (word : String)
  | malformedRole (entry : String)
  | invalidRoleId (text : String)
  | emptyRoleName (id : Int32)
  | zeroBatchSize
  | zeroWorkers
  | noVerificationInput
  | invalidBaseUrl (text : String)
  | invalidHeader (name : String)
  deriving DecidableEq

/-- The wording of a configuration error. -/
def ConfigError.message : ConfigError → String
  | .unknownWord setting word => setting.refusal ++ " '" ++ word ++ "'"
  | .malformedRole entry => "invalid role mapping entry '" ++ entry ++ "', expected id:name"
  | .invalidRoleId text => "invalid role id '" ++ text ++ "' in role mapping"
  | .emptyRoleName id =>
      "empty role name for role id " ++ String.ofList (Numeral.signed id.toInt)
  | .zeroBatchSize => "batch size must be at least 1"
  | .zeroWorkers => "workers must be at least 1"
  | .noVerificationInput => "verification requires a source count and sample"
  | .invalidBaseUrl text => "invalid target base URL '" ++ text ++ "'"
  | .invalidHeader name => "invalid value for header " ++ name

/-- An error that ends a migration. -/
inductive MigrationError where
  | config (cause : ConfigError)
  /-- Two records have the key; they are named by their ids. -/
  | duplicateKey (key existingId duplicateId : String)
  deriving DecidableEq

/-- The wording of an error. -/
def MigrationError.message : MigrationError → String
  | .config cause => "configuration error: " ++ cause.message
  | .duplicateKey key existingId duplicateId =>
      "duplicate user for key '" ++ key ++ "': existing_id=" ++ existingId
        ++ ", duplicate_id=" ++ duplicateId

end AccountMigration
