import AccountMigration.Proofs.Verification.Calls

/-!
# A verdict on each user of a sample

A verification comes to one verdict on each user in front of the sample: the user is missing, its
email address differs, or both sides agree.  What the report lists are the verdicts, in the order of
the sample and not in the order in which the lookups finish.

* `Verdict.of`: the verdict on a user by what its lookup found.
* `Target.verdicts`: the verdicts on a sample.
* `Target.AnswersById` and `verdicts_perm`: when the order of a sample does not matter.
* `verify_comes_to_verdicts`: what a verification reports, and when it passes.
-/

namespace AccountMigration

/-- What the lookup of a user shows. -/
inductive Verdict where
  | missing (user : MissingUser)
  | differs (field : FieldMismatch)
  | agrees
  deriving DecidableEq

namespace Verdict

/-- The verdict on a user by what its lookup found.  An absent email address is not an empty
one. -/
def of
    (user : SampledUser) :
    Option TargetUser → Verdict
  | none => .missing ⟨user.id, user.email.getD ""⟩
  | some found =>
      if found.email = user.email then .agrees
      else .differs ⟨user.id, "email", user.email.getD "", found.email.getD ""⟩

example :
    of ⟨"1", none⟩ (some { email := some "" }) = .differs ⟨"1", "email", "", ""⟩ := by
  decide

/-- The missing user that a verdict reports. -/
def missing? : Verdict → Option MissingUser
  | .missing user => some user
  | _ => none

/-- The field that differs by a verdict. -/
def differs? : Verdict → Option FieldMismatch
  | .differs field => some field
  | _ => none

variable (user : SampledUser) (found : Option TargetUser)

theorem missing?_of :
    (of user found).missing? = missingOf? (user, found) := by
  cases found with
  | none =>
      rfl
  | some other =>
      by_cases heq : other.email = user.email <;> simp [of, missing?, missingOf?, heq]

theorem differs?_of :
    (of user found).differs? = mismatchOf? (user, found) := by
  cases found with
  | none =>
      rfl
  | some other =>
      by_cases heq : other.email = user.email <;> simp [of, differs?, mismatchOf?, heq]

/-- A verdict that reports nothing is one on a user that was found with its email address. -/
theorem reports_nothing_iff :
    ((of user found).missing? = none ∧ (of user found).differs? = none) ↔
      ∃ other, found = some other ∧ other.email = user.email := by
  cases found with
  | none =>
      simp [of, missing?]
  | some other =>
      by_cases heq : other.email = user.email <;> simp [of, missing?, differs?, heq]

end Verdict

/-- The verdicts on the users in front of a sample. -/
def Target.verdicts
    (target : Target)
    (calls : List Call)
    (sample : List SampledUser) : List Verdict :=
  (sample.take sampleLimit).zipIdx.map fun p => .of p.1 (target.foundAt calls sample p.2 p.1)

/-- What is found under an id does not depend on the calls before. -/
def Target.AnswersById
    (target : Target) : Prop :=
  ∀ before after id,
    Reply.found (target.reply before (.findUser id)) =
      Reply.found (target.reply after (.findUser id))

/-- The number that the reply to a count shows; one that failed shows zero. -/
def Reply.count : Reply UInt64 → Nat
  | .answered n => n.toNat
  | .failed _ => 0
  | .crashed => 0

theorem countOrZero_eq_count
    {reply : Reply UInt64}
    (hreply : reply ≠ .crashed) :
    countOrZero reply = .ok reply.count := by
  cases reply with
  | answered n => rfl
  | failed error => rfl
  | crashed => exact absurd rfl hreply

section Verdicts

variable {target : Target} {calls : List Call} {sample : List SampledUser}

theorem filterMap_missing?_verdicts :
    (target.verdicts calls sample).filterMap Verdict.missing? =
      (target.lookedUp calls sample).filterMap missingOf? := by
  rw [Target.verdicts, lookedUp_eq, List.filterMap_map, List.filterMap_map]
  exact List.filterMap_congr fun p _ => Verdict.missing?_of p.1 _

theorem filterMap_differs?_verdicts :
    (target.verdicts calls sample).filterMap Verdict.differs? =
      (target.lookedUp calls sample).filterMap mismatchOf? := by
  rw [Target.verdicts, lookedUp_eq, List.filterMap_map, List.filterMap_map]
  exact List.filterMap_congr fun p _ => Verdict.differs?_of p.1 _

/-- The verdict at a position is one on the user at this position, and there is none behind the
users that are looked up. -/
theorem getElem?_verdicts
    (k : Nat) :
    (target.verdicts calls sample)[k]? =
      if k < sampleLimit then
        sample[k]?.map fun user => .of user (target.foundAt calls sample k user)
      else none := by
  rw [Target.verdicts, List.getElem?_map, List.getElem?_zipIdx, List.getElem?_take]
  split
  · cases sample[k]? <;> simp
  · rfl

/-- No verdict reports anything exactly when all users that are looked up are found with their
email addresses. -/
theorem verdicts_report_nothing_iff :
    ((target.verdicts calls sample).filterMap Verdict.missing? = [] ∧
      (target.verdicts calls sample).filterMap Verdict.differs? = []) ↔
      ∀ k < sampleLimit, ∀ user, sample[k]? = some user →
        ∃ other, target.foundAt calls sample k user = some other ∧ other.email = user.email := by
  rw [List.filterMap_eq_nil_iff, List.filterMap_eq_nil_iff, ← forall₂_and]
  constructor
  · intro hnothing k hk user huser
    refine (Verdict.reports_nothing_iff user _).mp (hnothing _ (List.mem_of_getElem? (i := k) ?_))
    rw [getElem?_verdicts, if_pos hk, huser, Option.map_some]
  · intro hfound verdict hverdict
    obtain ⟨k, hk⟩ := List.mem_iff_getElem?.mp hverdict
    rw [getElem?_verdicts] at hk
    split at hk
    · rename_i hlt
      obtain ⟨user, huser, rfl⟩ := Option.map_eq_some_iff.mp hk
      exact (Verdict.reports_nothing_iff user _).mpr (hfound k hlt user huser)
    · cases hk

/-- When what is found depends on the id alone, a permuted sample has the verdicts permuted. -/
theorem verdicts_perm
    (hbyId : target.AnswersById)
    {other : List SampledUser}
    (hsample : sample.length ≤ sampleLimit)
    (hperm : other.Perm sample) :
    (target.verdicts calls other).Perm (target.verdicts calls sample) := by
  have hverdicts : ∀ users : List SampledUser, users.length ≤ sampleLimit →
      target.verdicts calls users =
        users.map fun user => .of user (Reply.found (target.reply [] (.findUser user.id))) := by
    intro users husers
    refine List.ext_getElem? fun k => ?_
    rw [getElem?_verdicts, List.getElem?_map]
    split
    · simp only [Target.foundAt, hbyId _ []]
    · rw [List.getElem?_eq_none (by omega)]
      rfl
  rw [hverdicts sample hsample, hverdicts other (hperm.length_eq ▸ hsample)]
  exact hperm.map _

end Verdicts

section Verify

variable (target : Target) (schedule : Schedule) {workers : Nat} {calls : List Call}
  (sourceCount : Nat) (sample : List SampledUser)

/-- The report of a verification in closed form. -/
theorem verify_eq
    (hworkers : workers ≤ permitLimit)
    (husers : target.reply calls .countUsers ≠ .crashed)
    (hprofiles : target.reply (calls ++ [.countUsers]) .countProfiles ≠ .crashed) :
    verify target schedule workers calls sourceCount sample =
      { calls := calls ++ [.countUsers, .countProfiles] ++
          (sample.take sampleLimit).map fun user => .findUser user.id
        ending := .ok (reportOf target calls sourceCount
          (Reply.count (target.reply calls .countUsers))
          (Reply.count (target.reply (calls ++ [.countUsers]) .countProfiles)) sample) } := by
  have hpermits : grantPermits (max workers 1) = .ok () := by
    rw [grantPermits_eq_ok_iff]
    exact Nat.max_le.mpr ⟨hworkers, by decide⟩
  have hending := verify_ending target schedule workers calls sourceCount sample
  rw [countOrZero_eq_count husers, countOrZero_eq_count hprofiles, hpermits] at hending
  have hcalls : (verify target schedule workers calls sourceCount sample).calls =
      calls ++ [.countUsers, .countProfiles] ++
        (sample.take sampleLimit).map fun user => .findUser user.id := by
    simp only [verify, countOrZero_eq_count husers, countOrZero_eq_count hprofiles, verifySample,
      firstOf_min, hpermits]
    rw [List.append_assoc calls, Nat.min_comm, ← List.take_eq_take_min]
    rfl
  exact (Verifying.mk.injEq ..).mpr ⟨hcalls, hending⟩

/--
A verification comes to two checks of counts and to one verdict on each user in front of the sample,
whatever the lookups bring and in whatever order they finish; nobody else is looked up. It passes
when both counts are the expected ones and each of these users is found with its email address. When
what is found depends on the id alone, permuting a sample that is looked up as a whole permutes what
is listed and changes nothing else. -/
theorem verify_comes_to_verdicts
    (hworkers : workers ≤ permitLimit)
    (husers : target.reply calls .countUsers ≠ .crashed)
    (hprofiles : target.reply (calls ++ [.countUsers]) .countProfiles ≠ .crashed) :
    ∃ report,
      verify target schedule workers calls sourceCount sample =
        ⟨calls ++ [.countUsers, .countProfiles] ++
            (sample.take sampleLimit).map fun user => .findUser user.id,
          .ok report⟩ ∧
      report.checks =
        [.of userCountCheck sourceCount (Reply.count (target.reply calls .countUsers)),
          .of profileCountCheck sourceCount
            (Reply.count (target.reply (calls ++ [.countUsers]) .countProfiles))] ∧
      report.missingUsers = (target.verdicts calls sample).filterMap Verdict.missing? ∧
      report.mismatches = (target.verdicts calls sample).filterMap Verdict.differs? ∧
      (∀ k : Nat, (target.verdicts calls sample)[k]? =
        if k < sampleLimit then
          sample[k]?.map fun user => .of user (target.foundAt calls sample k user)
        else none) ∧
      (report.passed = true ↔
        Reply.count (target.reply calls .countUsers) = sourceCount ∧
        Reply.count (target.reply (calls ++ [.countUsers]) .countProfiles) = sourceCount ∧
        ∀ k < sampleLimit, ∀ user, sample[k]? = some user →
          ∃ found, target.foundAt calls sample k user = some found ∧
            found.email = user.email) ∧
      (sample.length ≤ sampleLimit → target.AnswersById →
        ∀ (order : Schedule) (others : Nat) (permuted : List SampledUser),
          others ≤ permitLimit → permuted.Perm sample →
          ∃ again,
            (verify target order others calls sourceCount permuted).ending = .ok again ∧
            again.missingUsers.Perm report.missingUsers ∧
            again.mismatches.Perm report.mismatches ∧
            again.checks = report.checks ∧
            again.passed = report.passed) := by
  refine ⟨_, verify_eq target schedule sourceCount sample hworkers husers hprofiles, rfl,
    filterMap_missing?_verdicts.symm, filterMap_differs?_verdicts.symm, getElem?_verdicts, ?_, ?_⟩
  · have hnothing := @verdicts_report_nothing_iff target calls sample
    rw [filterMap_missing?_verdicts, filterMap_differs?_verdicts] at hnothing
    rw [VerificationReport.passed_iff, forall_checks_reportOf, ← hnothing]
    simp only [CountCheck.of, decide_eq_true_eq]
    constructor
    · rintro ⟨⟨hu, hp⟩, hlists⟩
      exact ⟨hu.symm, hp.symm, hlists⟩
    · rintro ⟨hu, hp, hlists⟩
      exact ⟨⟨hu.symm, hp.symm⟩, hlists⟩
  · intro hsample hbyId order others permuted hothers hperm
    have hverdicts : (target.verdicts calls permuted).Perm (target.verdicts calls sample) :=
      verdicts_perm hbyId hsample hperm
    have hmissing := hverdicts.filterMap Verdict.missing?
    have hdiffers := hverdicts.filterMap Verdict.differs?
    rw [filterMap_missing?_verdicts, filterMap_missing?_verdicts] at hmissing
    rw [filterMap_differs?_verdicts, filterMap_differs?_verdicts] at hdiffers
    have hverify := verify_eq target order sourceCount permuted hothers husers hprofiles
    refine ⟨_, congrArg Verifying.ending hverify, hmissing, hdiffers, rfl, ?_⟩
    simp only [VerificationReport.passed, reportOf, hmissing.isEmpty_eq, hdiffers.isEmpty_eq]

/-- A service with as many users as are expected but fewer profiles, whose lookups find a user, find
nobody, fail or break down. -/
def patchyTarget : Target where
  reply := fun _ call =>
    match call with
    | .bulkImport _ => .answered {}
    | .countUsers => .answered (5 : UInt64)
    | .countProfiles => .failed (.status 503 "unavailable")
    | .findUser id =>
        if id = "1" then .answered (some { email := some "ada@x.org" })
        else if id = "2" then .answered none
        else if id = "3" then .failed .undecodable
        else if id = "4" then .crashed
        else .answered (some { email := some "" })

/-- Five users, one for each way in which a lookup can end. -/
def patchySample : List SampledUser :=
  [⟨"1", some "ada@x.org"⟩, ⟨"2", none⟩, ⟨"3", some "cyd@x.org"⟩, ⟨"4", none⟩, ⟨"5", none⟩]

theorem patchyTarget_answersById :
    patchyTarget.AnswersById := by
  intro before after id
  rfl

/-- Three users are missing and one has an empty email address in place of none, also when the
sample is looked up from its end. -/
theorem verify_patchySample :
    (4 : Nat) ≤ permitLimit ∧
    patchyTarget.reply [] .countUsers ≠ .crashed ∧
    patchyTarget.reply [.countUsers] .countProfiles ≠ .crashed ∧
    ∃ report,
      (verify patchyTarget .backwards 4 [] 5 patchySample).ending = .ok report ∧
      report.missingUsers = [⟨"2", ""⟩, ⟨"3", "cyd@x.org"⟩, ⟨"4", ""⟩] ∧
      report.mismatches = [⟨"5", "email", "", ""⟩] ∧
      report.passed = false ∧
      patchySample.length ≤ sampleLimit ∧
      patchyTarget.AnswersById ∧
      ∃ again,
        (verify patchyTarget .inOrder 1 [] 5 patchySample.reverse).ending = .ok again ∧
        again.missingUsers.Perm report.missingUsers ∧
        again.passed = false := by
  have hworkers : (4 : Nat) ≤ permitLimit := by decide
  have husers : patchyTarget.reply [] .countUsers ≠ .crashed := by nofun
  have hprofiles : patchyTarget.reply [.countUsers] .countProfiles ≠ .crashed := by nofun
  have hsample : patchySample.length ≤ sampleLimit := by decide
  obtain ⟨report, hverify, -, hmissing, hdiffers, -, hpassed, hpermuted⟩ :=
    verify_comes_to_verdicts patchyTarget .backwards 5 patchySample hworkers husers hprofiles
  obtain ⟨again, hagain, hperm, -, -, hsame⟩ :=
    hpermuted hsample patchyTarget_answersById .inOrder 1 patchySample.reverse (by decide)
      patchySample.reverse_perm
  have hfails : report.passed = false :=
    Bool.eq_false_iff.mpr fun h => absurd (hpassed.mp h).2.1 (by decide)
  exact ⟨hworkers, husers, hprofiles, report, by rw [hverify], by rw [hmissing]; rfl,
    by rw [hdiffers]; rfl, hfails, hsample, patchyTarget_answersById, again, hagain, hperm,
    hsame.trans hfails⟩

end Verify

end AccountMigration
