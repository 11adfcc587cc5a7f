import AccountMigration.Json.Fields
import AccountMigration.Json.Printer
import AccountMigration.Json.Reader
import AccountMigration.Settings.Choice

/-!
# Messages of the identity service

What is sent to the service and what it answers, with the JSON of each message.

* `ImportRequest` asks the service to make accounts; an entry leaves out what is absent.
* `ImportResponse` counts what became of the entries and gives a detail for each of them.
* `TargetUser` is an account of the service, and a count is answered by its total.
-/

namespace AccountMigration

/-- One account in an import request. -/
structure ImportEntry where
  id : Option String
  email : Option String
  username : Option String
  phone : Option String
  fullName : Option String
  passwordHashImport : Option String
  isActive : Bool
  emailVerified : Bool
  phoneVerified : Bool
  skipEmailVerification : Bool
  appRoles : List String
  deriving DecidableEq

/-- A batch of accounts, and what to do with those that exist already. -/
structure ImportRequest where
  users : List ImportEntry
  onConflict : ConflictStrategy
  deriving DecidableEq

/-- What became of one entry of a request. -/
structure ImportDetail where
  status : String := ""
  userId : Option String := none
  reason : Option String := none
  deriving DecidableEq

/-- What became of a batch: counters, and details in the order of the entries. -/
structure ImportResponse where
  imported : UInt64 := 0
  skipped : UInt64 := 0
  updated : UInt64 := 0
  errors : UInt64 := 0
  details : List ImportDetail := []
  deriving DecidableEq

/-- The part of an account that is compared with the source. -/
structure TargetUser where
  id : Option String := none
  email : Option String := none
  username : Option String := none
  deriving DecidableEq

namespace ImportEntry

/-- The fields of an entry in the order of their declaration. -/
def fieldNames : List String :=
  ["id", "email", "username", "phone", "full_name", "password_hash_import", "is_active",
    "email_verified", "phone_verified", "skip_email_verification", "app_roles"]

/-- An entry, where the roles may be missing. -/
def ofJson?
    (v : Json) : Option ImportEntry := do
  let field ← v.fields? fieldNames
  let id ← (field "id").optional Json.text?
  let email ← (field "email").optional Json.text?
  let username ← (field "username").optional Json.text?
  let phone ← (field "phone").optional Json.text?
  let fullName ← (field "full_name").optional Json.text?
  let passwordHashImport ← (field "password_hash_import").optional Json.text?
  let isActive ← (field "is_active").required Json.bool?
  let emailVerified ← (field "email_verified").required Json.bool?
  let phoneVerified ← (field "phone_verified").required Json.bool?
  let skipEmailVerification ← (field "skip_email_verification").required Json.bool?
  let appRoles ← (field "app_roles").orElse [] (Json.list? Json.text?)
  return { id, email, username, phone, fullName, passwordHashImport, isActive,
           emailVerified, phoneVerified, skipEmailVerification, appRoles }

/-- The member of an optional text, left out when it is absent. -/
def textMember
    (name : String) : Option String → List (String × Json)
  | some s => [(name, .text s)]
  | none => []

/-- The member of the roles, left out when there are none. -/
def rolesMember : List String → List (String × Json)
  | [] => []
  | roles => [("app_roles", .list .text roles)]

/-- An entry without the fields that are absent. -/
def toJson
    (e : ImportEntry) : Json :=
  .record
    (textMember "id" e.id
      ++ textMember "email" e.email
      ++ textMember "username" e.username
      ++ textMember "phone" e.phone
      ++ textMember "full_name" e.fullName
      ++ textMember "password_hash_import" e.passwordHashImport
      ++ [("is_active", .bool e.isActive),
        ("email_verified", .bool e.emailVerified),
        ("phone_verified", .bool e.phoneVerified),
        ("skip_email_verification", .bool e.skipEmailVerification)]
      ++ rolesMember e.appRoles)

end ImportEntry

/-- A request as it is sent. -/
def ImportRequest.toJson
    (r : ImportRequest) : Json :=
  .record
    [("users", .list ImportEntry.toJson r.users),
      ("on_conflict", .text r.onConflict.name)]

namespace ImportDetail

/-- A detail; every field may be missing. -/
def ofJson?
    (v : Json) : Option ImportDetail := do
  let field ← v.fields? ["status", "user_id", "reason"]
  let status ← (field "status").orElse "" Json.text?
  let userId ← (field "user_id").orElse none (Json.nullable Json.text?)
  let reason ← (field "reason").orElse none (Json.nullable Json.text?)
  return ⟨status, userId, reason⟩

/-- A detail with all of its fields. -/
def toJson
    (d : ImportDetail) : Json :=
  .record
    [("status", .text d.status),
      ("user_id", .ofOption .text d.userId),
      ("reason", .ofOption .text d.reason)]

end ImportDetail

namespace ImportResponse

/-- A response; every field may be missing. -/
def ofJson?
    (v : Json) : Option ImportResponse := do
  let field ← v.fields? ["imported", "skipped", "updated", "errors", "details"]
  let imported ← (field "imported").orElse 0 Json.word?
  let skipped ← (field "skipped").orElse 0 Json.word?
  let updated ← (field "updated").orElse 0 Json.word?
  let errors ← (field "errors").orElse 0 Json.word?
  let details ← (field "details").orElse [] (Json.list? ImportDetail.ofJson?)
  return ⟨imported, skipped, updated, errors, details⟩

/-- A response with all of its fields. -/
def toJson
    (r : ImportResponse) : Json :=
  .record
    [("imported", .nat r.imported.toNat),
      ("skipped", .nat r.skipped.toNat),
      ("updated", .nat r.updated.toNat),
      ("errors", .nat r.errors.toNat),
      ("details", .list ImportDetail.toJson r.details)]

end ImportResponse

namespace TargetUser

/-- An account; every field may be missing. -/
def ofJson?
    (v : Json) : Option TargetUser := do
  let field ← v.fields? ["id", "email", "username"]
  let id ← (field "id").orElse none (Json.nullable Json.text?)
  let email ← (field "email").orElse none (Json.nullable Json.text?)
  let username ← (field "username").orElse none (Json.nullable Json.text?)
  return ⟨id, email, username⟩

/-- An account with all of its fields. -/
def toJson
    (u : TargetUser) : Json :=
  .record
    [("id", .ofOption .text u.id),
      ("email", .ofOption .text u.email),
      ("username", .ofOption .text u.username)]

end TargetUser

/-- The total of a counted list, which may be missing. -/
def readTotal?
    (v : Json) : Option UInt64 := do
  let field ← v.fields? ["total"]
  (field "total").orElse 0 Json.word?

end AccountMigration
