import AccountMigration.Json.Basic

/-!
# The report of a verification

A verification compares counts and looks up a sample of users.  Its report lists the counts
that were compared, the users that were not found, and the fields that differ.  It passes
when all counts agree and both lists are empty.
-/

namespace AccountMigration

/-- Two counts that should be equal. -/
structure CountCheck where
  name : String
  /-- The count of the source. -/
  expected : Nat
  /-- The count of the service, zero when it could not be had. -/
  actual : Nat
  passed : Bool
  deriving DecidableEq

/-- A user of the sample that the service does not have. -/
structure MissingUser where
  userId : String
  /-- The email address in the source, empty when there is none. -/
  email : String
  deriving DecidableEq

/-- A field that differs between the source and the service; an absent value is empty. -/
structure FieldMismatch where
  userId : String
  field : String
  expected : String
  actual : String
  deriving DecidableEq

/-- The report of a verification. -/
structure VerificationReport where
  checks : List CountCheck := []
  missingUsers : List MissingUser := []
  mismatches : List FieldMismatch := []
  deriving DecidableEq

/-- The check of two counts. -/
def CountCheck.of
    (name : String)
    (expected actual : Nat) : CountCheck :=
  ⟨name, expected, actual, expected = actual⟩

namespace VerificationReport

/-- Add a check of two counts. -/
def addCheck
    (r : VerificationReport)
    (name : String)
    (expected actual : Nat) : VerificationReport :=
  { r with checks := r.checks ++ [.of name expected actual] }

/-- Add a missing user. -/
def addMissing
    (r : VerificationReport)
    (userId email : String) : VerificationReport :=
  { r with missingUsers := r.missingUsers ++ [⟨userId, email⟩] }

/-- Add a field that differs. -/
def addMismatch
    (r : VerificationReport)
    (userId field expected actual : String) : VerificationReport :=
  { r with mismatches := r.mismatches ++ [⟨userId, field, expected, actual⟩] }

/-- Whether nothing is wrong. -/
def passed
    (r : VerificationReport) : Bool :=
  r.checks.all (·.passed) && r.missingUsers.isEmpty && r.mismatches.isEmpty

/-- A report with all of its fields. -/
def toJson
    (r : VerificationReport) : Json :=
  .record
    [("checks", .list
        (fun c => .record
          [("name", .text c.name),
            ("expected", .nat c.expected),
            ("actual", .nat c.actual),
            ("passed", .bool c.passed)])
        r.checks),
      ("missing_users", .list
        (fun m => .record [("user_id", .text m.userId), ("email", .text m.email)])
        r.missingUsers),
      ("mismatches", .list
        (fun m => .record
          [("user_id", .text m.userId),
            ("field", .text m.field),
            ("expected", .text m.expected),
            ("actual", .text m.actual)])
        r.mismatches)]

end VerificationReport

end AccountMigration
