import AccountMigration.Error
import AccountMigration.Text.Ascii
import AccountMigration.Text.Blank

/-!
# Settings that are chosen by a word

Each of these settings has a closed set of values, and each value has one name.

* `Named.ofName?` finds a value by its exact name, as data files spell it.
* `Choice.read` finds a value by a word that people type: blanks around it and the case of
  ASCII letters do not matter, and a word that is not a name is refused.
-/

namespace AccountMigration

open Text

/-- A type with finitely many values that have names. -/
class Named (α : Type) where
  all : List α
  name : α → String

/-- The value of an exact name. -/
def Named.ofName?
    {α : Type}
    [Named α]
    (s : String) : Option α :=
  (Named.all : List α).find? fun a => Named.name a == s

/-- A setting whose values are chosen by name. -/
class Choice (α : Type) extends Named α where
  setting : Setting

/-- What a word comes down to before it is compared with the names. -/
def Choice.word
    (s : String) : String :=
  lowerAscii (trim s)

/-- The value that a word names. -/
def Choice.read
    {α : Type}
    [Choice α]
    (s : String) : Except ConfigError α :=
  match Named.ofName? (Choice.word s) with
  | some a => .ok a
  | none => .error (.unknownWord (Choice.setting α) (Choice.word s))

/-- Which fields identify a person. -/
inductive DedupKey where
  | email
  | phone
  | username
  /-- The email address when there is one, otherwise the phone number. -/
  | emailOrPhone
  /-- The username when there is one, otherwise the email address. -/
  | usernameOrEmail
  deriving DecidableEq

/-- The name of a key selector. -/
def DedupKey.name : DedupKey → String
  | .email => "email"
  | .phone => "phone"
  | .username => "username"
  | .emailOrPhone => "email_or_phone"
  | .usernameOrEmail => "username_or_email"

instance : Choice DedupKey where
  all := [.email, .phone, .username, .emailOrPhone, .usernameOrEmail]
  name := DedupKey.name
  setting := .dedupKey

/-- What becomes of records that have the same key. -/
inductive DedupStrategy where
  /-- Keys are not compared at all. -/
  | none
  /-- The first record of a key is kept. -/
  | keepFirst
  /-- The latest record of a key is kept, in the place of the first. -/
  | keepLatest
  /-- The second record of a key is an error. -/
  | error
  deriving DecidableEq

/-- The name of a deduplication strategy. -/
def DedupStrategy.name : DedupStrategy → String
  | .none => "none"
  | .keepFirst => "keep_first"
  | .keepLatest => "keep_latest"
  | .error => "error"

instance : Choice DedupStrategy where
  all := [.none, .keepFirst, .keepLatest, .error]
  name := DedupStrategy.name
  setting := .dedupStrategy

/-- What the service is asked to do with an account that it has already. -/
inductive ConflictStrategy where
  | skip
  | update
  | error
  deriving DecidableEq

/-- The name of a conflict strategy. -/
def ConflictStrategy.name : ConflictStrategy → String
  | .skip => "skip"
  | .update => "update"
  | .error => "error"

instance : Choice ConflictStrategy where
  all := [.skip, .update, .error]
  name := ConflictStrategy.name
  setting := .conflictStrategy

/-- What becomes of password hashes. -/
inductive PasswordStrategy where
  /-- Hashes are sent, so that passwords stay as they are. -/
  | transfer
  | forceReset
  | none
  deriving DecidableEq

/-- The name of a password strategy. -/
def PasswordStrategy.name : PasswordStrategy → String
  | .transfer => "transfer"
  | .forceReset => "force_reset"
  | .none => "none"

instance : Choice PasswordStrategy where
  all := [.transfer, .forceReset, .none]
  name := PasswordStrategy.name
  setting := .passwordStrategy

/-- Which ids the accounts get. -/
inductive IdStrategy where
  /-- An id that is a UUID is kept. -/
  | preserveUuid
  /-- The service makes new ids. -/
  | generateNew
  deriving DecidableEq

/-- The name of an id strategy. -/
def IdStrategy.name : IdStrategy → String
  | .preserveUuid => "preserve_uuid"
  | .generateNew => "generate_new"

instance : Choice IdStrategy where
  all := [.preserveUuid, .generateNew]
  name := IdStrategy.name
  setting := .idStrategy

/-- The parts of a migration that are to be carried out. -/
inductive MigrationStep where
  | importRecords
  | verify
  | all
  deriving DecidableEq

namespace MigrationStep

/-- The name of a step. -/
def name : MigrationStep → String
  | .importRecords => "import"
  | .verify => "verify"
  | .all => "all"

instance : Choice MigrationStep where
  all := [.importRecords, .verify, .all]
  name := MigrationStep.name
  setting := .step

/-- The step that a word names; a blank word asks for all steps. -/
def read
    (s : String) : Except ConfigError MigrationStep :=
  if Choice.word s = "" then .ok .all else Choice.read s

/-- Whether records are imported. -/
def imports : MigrationStep → Bool
  | .importRecords => true
  | .verify => false
  | .all => true

/-- Whether the service is checked against the source. -/
def verifies : MigrationStep → Bool
  | .importRecords => false
  | .verify => true
  | .all => true

end MigrationStep

end AccountMigration
