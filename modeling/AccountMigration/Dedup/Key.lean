import AccountMigration.Record
import AccountMigration.Settings.Choice
import AccountMigration.Text.Lowercase

/-!
# Keys of records

The key of a record is the lower case of a trimmed field.  A field that is blank counts as
absent, and a selector of two fields takes the second when the first is absent.
-/

namespace AccountMigration

open Text

/-- The lower case of a trimmed field. -/
def normalized
    (field : Option String) : Option String :=
  (present? field).map lowercase

/-- The key of a record under a selector. -/
def SourceRecord.key?
    (r : SourceRecord) : DedupKey → Option String
  | .email => normalized r.email
  | .phone => normalized r.phone
  | .username => normalized r.username
  | .emailOrPhone => (normalized r.email).or (normalized r.phone)
  | .usernameOrEmail => (normalized r.username).or (normalized r.email)

@[simp] theorem normalized_none :
    normalized none = none := by
  rfl

end AccountMigration
