import AccountMigration.Record
import AccountMigration.Service.Wire
import AccountMigration.Settings.Basic
import AccountMigration.Uuid

/-!
# From records to entries

The entry of a record has its trimmed fields, without those that are blank.

* A missing username is made up from the email address or the phone number.
* An id is sent when it is a UUID and ids are to be kept.
* A password hash is sent when passwords are to be transferred.
* Role ids that have no name in the mapping are left out.
-/

namespace AccountMigration

open Text

/-- The part of an email address in front of the first at sign. -/
def localPart
    (email : String) : String :=
  String.ofList (email.toList.takeWhile fun c => c ≠ '@')

/-- The ASCII digits of a phone number. -/
def phoneDigits
    (phone : String) : String :=
  String.ofList (phone.toList.filter isAsciiDigit)

/-- A text that is not empty. -/
def nonEmpty?
    (s : String) : Option String :=
  if s = "" then none else some s

/-- A username from the local part of an email address, else from the digits of a phone
number. -/
def synthesizeUsername
    (email phone : Option String) : Option String :=
  ((email.map localPart).bind nonEmpty?).or ((phone.map phoneDigits).bind nonEmpty?)

/-- The id that is sent for the id of a record. -/
def EntryRules.idOf
    (rules : EntryRules)
    (id : String) : Option String :=
  match rules.ids with
  | .preserveUuid => (Uuid.ofText? (trim id)).map Uuid.toText
  | .generateNew => none

/-- The password hash that is sent for the hash of a record. -/
def EntryRules.hashOf
    (rules : EntryRules)
    (hash : Option String) : Option String :=
  match rules.passwords with
  | .transfer => present? hash
  | .forceReset => none
  | .none => none

/-- The entry of a record. -/
def SourceRecord.toEntry
    (rules : EntryRules)
    (r : SourceRecord) : ImportEntry :=
  let email := present? r.email
  let phone := present? r.phone
  { id := rules.idOf r.id
    email
    username := (present? r.username).or (synthesizeUsername email phone)
    phone
    fullName := present? r.fullName
    passwordHashImport := rules.hashOf r.passwordHash
    isActive := r.isActive
    emailVerified := r.emailVerified
    phoneVerified := r.phoneVerified
    skipEmailVerification := true
    appRoles := r.roleIds.filterMap rules.roles.find? }

end AccountMigration
