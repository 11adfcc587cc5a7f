import AccountMigration.Settings.Basic
import AccountMigration.Text.Utf8

/-!
# Settings from the environment

Every setting has a variable.  A variable whose bytes are not UTF-8 counts as unset.

* Words are refused when they name nothing; a blank word counts as unset.
* Numbers that cannot be read fall back to the default.
* The dry run ends only with a value that is none of `1`, `true` and `yes`.

The variables are read in a fixed order, and the first that is refused decides the error.
-/

namespace AccountMigration

open Text

/-- The variables of a process, as bytes. -/
structure Environment where
  value? : String → Option (List UInt8)

namespace Environment

/-- An environment that lists its variables; the first of a name counts. -/
def ofList
    (values : List (String × List UInt8)) : Environment :=
  ⟨fun name => values.lookup name⟩

/-- The text of a variable, absent when the variable is unset or not UTF-8. -/
def text?
    (env : Environment)
    (name : String) : Option String :=
  (env.value? name).bind Utf8.text?

/-- A text with a default. -/
def textOr
    (env : Environment)
    (name default : String) : String :=
  (env.text? name).getD default

/-- A number of 64 bits with a default, also for text that is no such number. -/
def natOr
    (env : Environment)
    (name : String)
    (default : Nat) : Nat :=
  ((env.text? name).bind fun s => Numeral.natUpTo? Numeral.maxWord s.toList).getD default

/-- The words that mean yes. -/
def isYes
    (s : String) : Bool :=
  ["1", "true", "yes"].contains (lowerAscii s)

/-- A yes or no with a default for an unset variable. -/
def flagOr
    (env : Environment)
    (name : String)
    (default : Bool) : Bool :=
  match env.text? name with
  | some s => isYes s
  | none => default

/-- A choice with a default for a variable that is unset or blank. -/
def choiceOr
    {α : Type}
    [Choice α]
    (env : Environment)
    (name : String)
    (default : α) : Except ConfigError α :=
  match env.text? name with
  | some s => if isBlankText s then .ok default else Choice.read s
  | none => .ok default

/-- A role mapping, empty for an unset variable. -/
def roles
    (env : Environment)
    (name : String) : Except ConfigError RoleMap :=
  match env.text? name with
  | some s => RoleMap.ofText s
  | none => .ok .empty

/-- Where the identity service is. -/
def service
    (env : Environment) : ServiceAddress where
  baseUrl := env.textOr "TARGET_BASE_URL" "http://localhost:3000"
  apiKey := env.textOr "TARGET_API_KEY" ""
  applicationId := env.textOr "TARGET_APPLICATION_ID" ""
  timeoutMillis := env.natOr "TARGET_TIMEOUT_MS" 30000

/-- The settings of an environment. -/
def settings
    (env : Environment) : Except ConfigError Settings := do
  let key ← env.choiceOr "MIGRATION_DEDUP_KEY" DedupKey.email
  let strategy ← env.choiceOr "MIGRATION_DEDUP_STRATEGY" DedupStrategy.keepLatest
  let roles ← env.roles "MIGRATION_ROLE_MAP"
  let ids ← env.choiceOr "MIGRATION_ID_STRATEGY" IdStrategy.preserveUuid
  let passwords ← env.choiceOr "MIGRATION_PASSWORD_STRATEGY" PasswordStrategy.transfer
  let onConflict ← env.choiceOr "MIGRATION_ON_CONFLICT" ConflictStrategy.skip
  let settings : Settings :=
    { batchSize := env.natOr "MIGRATION_BATCH_SIZE" 50
      workers := env.natOr "MIGRATION_WORKERS" 4
      dryRun := env.flagOr "MIGRATION_DRY_RUN" true
      dedup := ⟨key, strategy⟩
      onConflict
      entries :=
        ⟨ids, passwords, env.textOr "MIGRATION_PASSWORD_ALGORITHM" "bcrypt", roles⟩
      service := env.service }
  settings.validate
  return settings

end Environment

end AccountMigration
