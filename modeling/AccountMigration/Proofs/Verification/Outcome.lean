import AccountMigration.Proofs.Checks
import AccountMigration.Proofs.Verification.Lookups

/-!
# What a verification reports

A verification that comes to its end reports two checks of counts, and of the users in front
of the sample those that are missing and those whose email address differs, in the order of
the sample.

* `missingOf?` and `mismatchOf?`: what one user and what was found for it add to the report.
* `VerificationReport.compareAll_eq`: what all of them add.
* `lookedUp_eq`: which users are looked up, and what is found for each of them.
* `verify_ending`: the report of a verification, and when there is one.
-/

namespace AccountMigration

/-- The missing user, when nobody was found for a user. -/
def missingOf? : SampledUser × Option TargetUser → Option MissingUser
  | (user, none) => some ⟨user.id, user.email.getD ""⟩
  | (_, some _) => none

/-- The field that differs, when the user that was found has another email address. -/
def mismatchOf? : SampledUser × Option TargetUser → Option FieldMismatch
  | (_, none) => none
  | (user, some found) =>
      if found.email = user.email then none
      else some ⟨user.id, "email", user.email.getD "", found.email.getD ""⟩

/-- The users that a verification looks up after the given calls, each with the user that is
found for it. -/
def Target.lookedUp
    (target : Target)
    (calls : List Call)
    (sample : List SampledUser) : List (SampledUser × Option TargetUser) :=
  let users := sample.take (min sample.length sampleLimit)
  users.zip (target.findings (calls ++ [.countUsers, .countProfiles]) users)

/-- What is found for the user at a position of a sample: its lookup follows the counts and the
lookups of the users in front of it. -/
def Target.foundAt
    (target : Target)
    (calls : List Call)
    (sample : List SampledUser)
    (position : Nat)
    (user : SampledUser) : Option TargetUser :=
  Reply.found (target.reply
    (calls ++ [.countUsers, .countProfiles] ++
      (sample.take position).map fun u => .findUser u.id)
    (.findUser user.id))

namespace VerificationReport

/-- What all users add to a report, in their order. -/
theorem compareAll_eq
    (r : VerificationReport)
    (pairs : List (SampledUser × Option TargetUser)) :
    r.compareAll pairs =
      { r with
        missingUsers := r.missingUsers ++ pairs.filterMap missingOf?
        mismatches := r.mismatches ++ pairs.filterMap mismatchOf? } := by
  induction pairs generalizing r with
  | nil =>
      simp [compareAll]
  | cons pair pairs ih =>
      have hcons : r.compareAll (pair :: pairs) = (r.compare pair.1 pair.2).compareAll pairs := rfl
      obtain ⟨user, found⟩ := pair
      rw [hcons, ih]
      cases found with
      | none =>
          simp [compare, addMissing, missingOf?, mismatchOf?, List.filterMap_cons]
      | some other =>
          by_cases heq : other.email = user.email
          · simp [compare, missingOf?, mismatchOf?, heq, List.filterMap_cons]
          · simp [compare, addMismatch, missingOf?, mismatchOf?, heq, List.filterMap_cons]

theorem passed_iff
    (report : VerificationReport) :
    report.passed = true ↔
      (∀ check ∈ report.checks, check.passed = true) ∧ report.missingUsers = [] ∧
        report.mismatches = [] := by
  simp [passed, and_assoc]

end VerificationReport

/-- The report of a verification, whose counts are given. -/
def reportOf
    (target : Target)
    (calls : List Call)
    (sourceCount users profiles : Nat)
    (sample : List SampledUser) : VerificationReport where
  checks :=
    [.of userCountCheck sourceCount users, .of profileCountCheck sourceCount profiles]
  missingUsers := (target.lookedUp calls sample).filterMap missingOf?
  mismatches := (target.lookedUp calls sample).filterMap mismatchOf?

section LookedUp

variable {target : Target} {calls : List Call} {sample : List SampledUser}

theorem map_fst_lookedUp
    (hsample : sample.length ≤ sampleLimit) :
    (target.lookedUp calls sample).map Prod.fst = sample := by
  have hmin : min sample.length sampleLimit = sample.length := Nat.min_eq_left hsample
  rw [Target.lookedUp, hmin, List.take_length, List.map_fst_zip (by simp)]

/-- What is found for a user is the reply to its lookup, and nothing is sent between the calls
before a verification and this lookup. -/
theorem mem_lookedUp
    {pair : SampledUser × Option TargetUser}
    (hpair : pair ∈ target.lookedUp calls sample) :
    pair.1 ∈ sample ∧ ∃ more : List Call, (∀ call ∈ more, call.request? = none) ∧
      pair.2 = Reply.found (target.reply (calls ++ more) (.findUser pair.1.id)) := by
  obtain ⟨k, hk⟩ := List.mem_iff_getElem?.mp hpair
  obtain ⟨huser, hfound⟩ := List.getElem?_zip_eq_some.mp hk
  rw [Target.getElem?_findings, huser, Option.map_some, Option.some.injEq,
    List.append_assoc] at hfound
  refine ⟨List.mem_of_mem_take (List.mem_of_getElem? huser), _, ?_, hfound.symm⟩
  intro call hcall
  rw [List.mem_append, List.mem_map] at hcall
  rcases hcall with hcount | ⟨user, -, rfl⟩
  · simp only [List.mem_cons, List.not_mem_nil, or_false] at hcount
    rcases hcount with rfl | rfl <;> rfl
  · rfl

/-- The users that are looked up are those in front of the sample, and what is found for each of
them is the reply in its own place. -/
theorem lookedUp_eq
    (target : Target)
    (calls : List Call)
    (sample : List SampledUser) :
    target.lookedUp calls sample =
      (sample.take sampleLimit).zipIdx.map fun p =>
        (p.1, target.foundAt calls sample p.2 p.1) := by
  have husers : sample.take (min sample.length sampleLimit) = sample.take sampleLimit := by
    rw [Nat.min_comm, ← List.take_eq_take_min]
  rw [Target.lookedUp, husers, Target.zip_findings]
  refine List.map_congr_left fun p hp => ?_
  have hposition : p.2 ≤ sampleLimit := by
    have hlt := (List.mem_zipIdx' hp).1
    rw [List.length_take] at hlt
    omega
  rw [List.take_take, Nat.min_eq_left hposition, Target.foundAt]

theorem forall_checks_reportOf
    {P : CountCheck → Prop}
    {sourceCount users profiles : Nat} :
    (∀ check ∈ (reportOf target calls sourceCount users profiles sample).checks, P check) ↔
      P (.of userCountCheck sourceCount users) ∧
        P (.of profileCountCheck sourceCount profiles) := by
  simp [reportOf]

/-- When the lookup of each user shows what the user lets expect, so does the whole sample. -/
theorem filterMap_lookedUp
    {α : Type}
    (hsample : sample.length ≤ sampleLimit)
    {shown : SampledUser × Option TargetUser → Option α}
    {expected : SampledUser → Option α}
    (hshown : ∀ pair ∈ target.lookedUp calls sample, shown pair = expected pair.1) :
    (target.lookedUp calls sample).filterMap shown = sample.filterMap expected := by
  calc (target.lookedUp calls sample).filterMap shown
      = (target.lookedUp calls sample).filterMap fun pair => expected pair.1 :=
        List.filterMap_congr hshown
    _ = ((target.lookedUp calls sample).map Prod.fst).filterMap expected := by
        rw [List.filterMap_map]
        rfl
    _ = sample.filterMap expected := by
        rw [map_fst_lookedUp hsample]

end LookedUp

section Verify

variable (target : Target) (schedule : Schedule) (workers : Nat) (calls : List Call)
  (sourceCount : Nat) (sample : List SampledUser)

theorem firstOf_min :
    firstOf (min sample.length sampleLimit) sample =
      .ok (sample.take (min sample.length sampleLimit)) := by
  rw [firstOf, if_pos (Nat.min_le_left _ _)]

/-- The lookups of a verification add to its report what they find. -/
theorem compareAll_lookedUp
    (users profiles : Nat) :
    ((VerificationReport.addCheck {} userCountCheck sourceCount users).addCheck
        profileCountCheck sourceCount profiles).compareAll (target.lookedUp calls sample) =
      reportOf target calls sourceCount users profiles sample := by
  rw [VerificationReport.compareAll_eq]
  rfl

/-- How a verification ends: with a report, unless a count breaks it down or there are too many
workers. -/
theorem verify_ending :
    (verify target schedule workers calls sourceCount sample).ending = do
      let users ← countOrZero (target.reply calls .countUsers)
      let profiles ← countOrZero (target.reply (calls ++ [.countUsers]) .countProfiles)
      grantPermits (max workers 1)
      return reportOf target calls sourceCount users profiles sample := by
  unfold verify
  cases hu : countOrZero (target.reply calls .countUsers) with
  | error fault =>
      rfl
  | ok users =>
      cases hp : countOrZero (target.reply (calls ++ [.countUsers]) .countProfiles) with
      | error fault =>
          simp only [hp]
          rfl
      | ok profiles =>
          simp only [hp, verifySample, firstOf_min]
          cases hw : grantPermits (max workers 1) with
          | error fault =>
              rfl
          | ok =>
              simp only [lookupAll_eq, List.append_assoc, List.cons_append, List.nil_append]
              exact congrArg Except.ok
                (compareAll_lookedUp target calls sourceCount sample users profiles)

variable {target schedule workers calls sourceCount sample}

/-- A verification that ends with a report has no more workers than there are permits, and its
report is made of two counts and what its lookups find. -/
theorem exists_counts_of_verify_ok
    {report : VerificationReport}
    (hending : (verify target schedule workers calls sourceCount sample).ending = .ok report) :
    workers ≤ permitLimit ∧ ∃ users profiles,
      countOrZero (target.reply calls .countUsers) = .ok users ∧
      countOrZero (target.reply (calls ++ [.countUsers]) .countProfiles) = .ok profiles ∧
      report = reportOf target calls sourceCount users profiles sample := by
  rw [verify_ending] at hending
  obtain ⟨users, husers, hending⟩ := bind_eq_ok_iff.mp hending
  obtain ⟨profiles, hprofiles, hending⟩ := bind_eq_ok_iff.mp hending
  obtain ⟨_, hpermits, hending⟩ := bind_eq_ok_iff.mp hending
  have hlimit := (grantPermits_eq_ok_iff _).mp hpermits
  exact ⟨Nat.le_trans (Nat.le_max_left _ _) hlimit, users, profiles, husers, hprofiles,
    (Except.ok.inj hending).symm⟩

theorem verify_ok
    {report : VerificationReport}
    (hending : (verify target schedule workers calls sourceCount sample).ending = .ok report) :
    workers ≤ permitLimit ∧
      report.missingUsers = (target.lookedUp calls sample).filterMap missingOf? ∧
      report.mismatches = (target.lookedUp calls sample).filterMap mismatchOf? := by
  obtain ⟨hworkers, _, _, -, -, rfl⟩ := exists_counts_of_verify_ok hending
  exact ⟨hworkers, rfl, rfl⟩

theorem exists_countOrZero
    {reply : Reply UInt64}
    (hreply : reply ≠ .crashed) :
    ∃ n, countOrZero reply = .ok n := by
  cases reply with
  | answered n => exact ⟨n.toNat, rfl⟩
  | failed error => exact ⟨0, rfl⟩
  | crashed => exact absurd rfl hreply

/-- A verification ends with a report when the counts do not break down. -/
theorem exists_verify_ok
    (hworkers : workers ≤ permitLimit)
    (husers : target.reply calls .countUsers ≠ .crashed)
    (hprofiles : target.reply (calls ++ [.countUsers]) .countProfiles ≠ .crashed) :
    ∃ report, (verify target schedule workers calls sourceCount sample).ending = .ok report := by
  obtain ⟨users, hu⟩ := exists_countOrZero husers
  obtain ⟨profiles, hp⟩ := exists_countOrZero hprofiles
  have hw : grantPermits (max workers 1) = .ok () := by
    rw [grantPermits_eq_ok_iff]
    exact Nat.max_le.mpr ⟨hworkers, by decide⟩
  exact ⟨_, by rw [verify_ending, hu, hp, hw]; rfl⟩

end Verify

end AccountMigration
