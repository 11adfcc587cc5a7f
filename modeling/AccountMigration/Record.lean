import AccountMigration.Json.Fields
import AccountMigration.Json.Printer
import AccountMigration.Json.Reader
import AccountMigration.Time.Printer
import AccountMigration.Time.Reader

/-!
# Records of the source

One record for each account of the source, under names that do not depend on where the
account comes from, and the pairs of id and email address that are drawn from records to
spot-check the service.

* `SourceRecord.ofJson?` and `SourceRecord.toJson` read and write a record.
* `SampledUser.ofJson?` and `SampledUser.toJson` read and write a pair.
-/

namespace AccountMigration

/-- One account of the source. -/
structure SourceRecord where
  /-- The id in the source, kept by the service when it is a UUID. -/
  id : String
  email : Option String := none
  username : Option String := none
  phone : Option String := none
  /-- The stored hash, in any algorithm. -/
  passwordHash : Option String := none
  fullName : Option String := none
  isActive : Bool := true
  emailVerified : Bool := false
  phoneVerified : Bool := false
  /-- When the account was made. -/
  createdAt : Option Timestamp := none
  /-- The roles of the account, by their ids in the source. -/
  roleIds : List Int32 := []
  deriving DecidableEq

/-- An account that the service is asked about. -/
structure SampledUser where
  id : String
  email : Option String
  deriving DecidableEq

/-- A timestamp in its written form. -/
def Timestamp.toJson
    (t : Timestamp) : Json :=
  .text t.toText

/-- A timestamp from its written form. -/
def Timestamp.ofJson?
    (v : Json) : Option Timestamp :=
  v.text?.bind Timestamp.ofText?

namespace SourceRecord

/-- The fields of a record in the order of their declaration. -/
def fieldNames : List String :=
  ["id", "email", "username", "phone", "password_hash", "full_name", "is_active",
    "email_verified", "phone_verified", "created_at", "role_ids"]

/-- A record, where the role ids may be missing. -/
def ofJson?
    (v : Json) : Option SourceRecord := do
  let field ← v.fields? fieldNames
  let id ← (field "id").required Json.text?
  let email ← (field "email").optional Json.text?
  let username ← (field "username").optional Json.text?
  let phone ← (field "phone").optional Json.text?
  let passwordHash ← (field "password_hash").optional Json.text?
  let fullName ← (field "full_name").optional Json.text?
  let isActive ← (field "is_active").required Json.bool?
  let emailVerified ← (field "email_verified").required Json.bool?
  let phoneVerified ← (field "phone_verified").required Json.bool?
  let createdAt ← (field "created_at").optional Timestamp.ofJson?
  let roleIds ← (field "role_ids").orElse [] (Json.list? Json.int32?)
  return { id, email, username, phone, passwordHash, fullName, isActive, emailVerified,
           phoneVerified, createdAt, roleIds }

/-- A record with all of its fields. -/
def toJson
    (r : SourceRecord) : Json :=
  .record
    [("id", .text r.id),
      ("email", .ofOption .text r.email),
      ("username", .ofOption .text r.username),
      ("phone", .ofOption .text r.phone),
      ("password_hash", .ofOption .text r.passwordHash),
      ("full_name", .ofOption .text r.fullName),
      ("is_active", .bool r.isActive),
      ("email_verified", .bool r.emailVerified),
      ("phone_verified", .bool r.phoneVerified),
      ("created_at", .ofOption Timestamp.toJson r.createdAt),
      ("role_ids", .list (fun id => .int id.toInt) r.roleIds)]

end SourceRecord

namespace SampledUser

/-- The pair of a record. -/
def ofRecord
    (r : SourceRecord) : SampledUser :=
  ⟨r.id, r.email⟩

/-- A pair of id and email address. -/
def ofJson?
    (v : Json) : Option SampledUser := do
  let field ← v.fields? ["id", "email"]
  let id ← (field "id").required Json.text?
  let email ← (field "email").optional Json.text?
  return ⟨id, email⟩

/-- A pair with both of its fields. -/
def toJson
    (u : SampledUser) : Json :=
  .record [("id", .text u.id), ("email", .ofOption .text u.email)]

end SampledUser

end AccountMigration
