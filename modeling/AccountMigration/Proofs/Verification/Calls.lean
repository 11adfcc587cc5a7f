import AccountMigration.Proofs.Service.Faithful
import AccountMigration.Proofs.Verification.Outcome

/-!
# What a verification asks for

A verification asks for two counts and looks users up; it sends nothing.  The only call that can
keep it from its report is one for a count on which the service breaks down.

* `Target.CountCrash`: calls that end with such a call.
* `requestsOf_verify`: a verification sends nothing.
* `verify_ok_or_crash`: a verification comes to its report, or stops at such a call.
-/

namespace AccountMigration

/-- The last of the calls asks for a count, and the service breaks down on it. -/
inductive Target.CountCrash
    (target : Target) : List Call → Prop where
  | users (before : List Call) :
      target.reply before .countUsers = .crashed →
        CountCrash target (before ++ [.countUsers])
  | profiles (before : List Call) :
      target.reply before .countProfiles = .crashed →
        CountCrash target (before ++ [.countProfiles])

theorem Target.Counts.not_countCrash
    {target : Target}
    (hcounts : target.Counts)
    (calls : List Call) :
    ¬ target.CountCrash calls := by
  rintro (⟨before, hcrash⟩ | ⟨before, hcrash⟩)
  · exact (hcounts before).1 hcrash
  · exact (hcounts before).2 hcrash

section Verify

variable (target : Target) (schedule : Schedule) (workers : Nat) (calls : List Call)
  (sourceCount : Nat) (sample : List SampledUser)

/-- The calls of a verification come behind those before it, and none of them sends anything. -/
theorem requestsOf_verify :
    requestsOf (verify target schedule workers calls sourceCount sample).calls =
      requestsOf calls := by
  have hlookups : ∀ users : List SampledUser,
      requestsOf (users.map fun user => .findUser user.id) = [] := by
    intro users
    simp [requestsOf, Call.request?, Function.comp_def]
  have hcounts : ∀ before, requestsOf (before ++ [.countUsers]) = requestsOf before ∧
      requestsOf (before ++ [.countProfiles]) = requestsOf before := by
    intro before
    constructor <;> simp [requestsOf, Call.request?]
  unfold verify
  cases countOrZero (target.reply calls .countUsers) with
  | error fault =>
      exact (hcounts calls).1
  | ok users =>
      simp only
      cases countOrZero (target.reply (calls ++ [.countUsers]) .countProfiles) with
      | error fault =>
          simp only [(hcounts _).2, (hcounts _).1]
      | ok profiles =>
          simp only [verifySample, firstOf_min]
          cases grantPermits (max workers 1) with
          | error fault =>
              simp only [(hcounts _).2, (hcounts _).1]
          | ok =>
              simp only [requestsOf_append _ (List.map _ _), hlookups, (hcounts _).2,
                (hcounts _).1, List.append_nil]

variable {workers}

/-- With few enough workers, only a crash on a count keeps a verification from its report. -/
theorem verify_ok_or_crash
    (hworkers : workers ≤ permitLimit) :
    (∃ v, (verify target schedule workers calls sourceCount sample).ending = .ok v) ∨
      (verify target schedule workers calls sourceCount sample).ending = .error .countCrashed ∧
        target.CountCrash (verify target schedule workers calls sourceCount sample).calls := by
  by_cases husers : target.reply calls .countUsers = .crashed
  · have hverify : verify target schedule workers calls sourceCount sample =
        ⟨calls ++ [.countUsers], .error .countCrashed⟩ := by
      simp only [verify, husers, countOrZero]
    rw [hverify]
    exact Or.inr ⟨rfl, .users calls husers⟩
  · by_cases hprofiles : target.reply (calls ++ [.countUsers]) .countProfiles = .crashed
    · obtain ⟨users, hcount⟩ := exists_countOrZero husers
      have hverify : verify target schedule workers calls sourceCount sample =
          ⟨calls ++ [.countUsers] ++ [.countProfiles], .error .countCrashed⟩ := by
        simp only [verify, hcount, hprofiles]
        rfl
      rw [hverify]
      exact Or.inr ⟨rfl, .profiles _ hprofiles⟩
    · exact Or.inl (exists_verify_ok hworkers husers hprofiles)

end Verify

end AccountMigration
