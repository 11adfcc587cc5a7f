import AccountMigration.Fault
import AccountMigration.Schedule
import AccountMigration.Service.Target
import AccountMigration.Verification.Report
import AccountMigration.Verification.Sample

/-!
# Verification

The counts of the service are compared with the count of the source, and the users in front
of the sample are looked up side by side.  A count that cannot be had counts as zero, and a
user whose lookup fails counts as missing.

* `Lookup.ofReply`: what a lookup finds.
* `lookupAll`: the lookups of a sample, aligned with the sample in any order of completion.
* `VerificationReport.compare`: what one user adds to the report.
* `verify`: the whole verification.
-/

namespace AccountMigration

/-- The name of the check of all accounts. -/
def userCountCheck : String :=
  "User count"

/-- The name of the check of the accounts that use the application. -/
def profileCountCheck : String :=
  "App profiles count"

/-- How the task of a lookup ends. -/
inductive Lookup where
  | done (index : Nat) (found : Option TargetUser)
  | crashed
  deriving DecidableEq

namespace Lookup

/-- What the lookup with a number finds; a failure finds nobody. -/
def ofReply
    (index : Nat) :
    Reply (Option TargetUser) → Lookup
  | .answered found => .done index found
  | .failed _ => .done index none
  | .crashed => .crashed

/-- Look up users in order after the given calls; the first of them has the given number. -/
def start
    (target : Target) :
    List Call → Nat → List SampledUser → List Lookup
  | _, _, [] => []
  | calls, index, user :: rest =>
      ofReply index (target.reply calls (.findUser user.id))
        :: start target (calls ++ [.findUser user.id]) (index + 1) rest

/-- Put what a lookup found into its place. -/
def join
    (places : List (Option TargetUser)) :
    Lookup → Except Fault (List (Option TargetUser))
  | .done index found =>
      if index < places.length then .ok (places.set index found)
      else .error (.lookupOutOfRange index)
  | .crashed => .ok places

/-- Put what the lookups found into their places, one by one. -/
def joinAll :
    List (Option TargetUser) → List Lookup → Except Fault (List (Option TargetUser))
  | places, [] => .ok places
  | places, lookup :: rest =>
      match join places lookup with
      | .error fault => .error fault
      | .ok next => joinAll next rest

end Lookup

/-- Look up users and give what was found for each of them. -/
def lookupAll
    (target : Target)
    (schedule : Schedule)
    (calls : List Call)
    (users : List SampledUser) : Except Fault (List (Option TargetUser)) :=
  Lookup.joinAll (List.replicate users.length none)
    (schedule.arrange (Lookup.start target calls 0 users))

/-- The first elements of a list, which must have that many. -/
def firstOf
    {α : Type}
    (n : Nat)
    (xs : List α) : Except Fault (List α) :=
  if n ≤ xs.length then .ok (xs.take n) else .error (.sampleOutOfRange n)

/-- Add what the lookup of a user shows. -/
def VerificationReport.compare
    (r : VerificationReport)
    (user : SampledUser) :
    Option TargetUser → VerificationReport
  | none => r.addMissing user.id (user.email.getD "")
  | some found =>
      if found.email = user.email then r
      else r.addMismatch user.id "email" (user.email.getD "") (found.email.getD "")

/-- Add what the lookups of users show, one by one. -/
def VerificationReport.compareAll
    (r : VerificationReport)
    (pairs : List (SampledUser × Option TargetUser)) : VerificationReport :=
  pairs.foldl (fun r pair => r.compare pair.1 pair.2) r

/-- A count of the service; one that failed is zero. -/
def countOrZero : Reply UInt64 → Except Fault Nat
  | .answered n => .ok n.toNat
  | .failed _ => .ok 0
  | .crashed => .error .countCrashed

/-- What a verification does: the calls so far, and the report. -/
structure Verifying where
  calls : List Call
  ending : Except Fault VerificationReport

/-- Look up the users in front of a sample and add what they show to a report. -/
def verifySample
    (target : Target)
    (schedule : Schedule)
    (workers : Nat)
    (calls : List Call)
    (sample : List SampledUser)
    (report : VerificationReport) : Verifying :=
  match firstOf (min sample.length sampleLimit) sample with
  | .error fault => ⟨calls, .error fault⟩
  | .ok users =>
      match grantPermits (max workers 1) with
      | .error fault => ⟨calls, .error fault⟩
      | .ok () =>
          { calls := calls ++ users.map fun user => .findUser user.id
            ending := (lookupAll target schedule calls users).map fun found =>
              report.compareAll (users.zip found) }

/--
Verify after the given calls that the service has as many users and profiles as the source,
and the users of the sample.  A number of workers of zero counts as one. -/
def verify
    (target : Target)
    (schedule : Schedule)
    (workers : Nat)
    (calls : List Call)
    (sourceCount : Nat)
    (sample : List SampledUser) : Verifying :=
  let afterUsers := calls ++ [.countUsers]
  match countOrZero (target.reply calls .countUsers) with
  | .error fault => ⟨afterUsers, .error fault⟩
  | .ok users =>
      let afterProfiles := afterUsers ++ [.countProfiles]
      match countOrZero (target.reply afterUsers .countProfiles) with
      | .error fault => ⟨afterProfiles, .error fault⟩
      | .ok profiles =>
          let report := VerificationReport.addCheck {} userCountCheck sourceCount users
          verifySample target schedule workers afterProfiles sample
            (report.addCheck profileCountCheck sourceCount profiles)

end AccountMigration
