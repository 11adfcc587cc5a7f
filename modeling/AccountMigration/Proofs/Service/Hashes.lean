import AccountMigration.Proofs.Verification.Outcome

/-!
# Services that do not look at password hashes

A service may store the password hashes that it is sent without ever letting them decide how a
call ends.  What a verification finds at such a service is the same whatever hashes were sent
before.

* `Call.withoutHashes`: a call from which the password hashes are taken out.
* `Target.IgnoresHashes`: replies and words do not depend on the hashes that were sent.
* `Target.IgnoresHashes.verify_eq`: nor does a verification.
-/

namespace AccountMigration

/-- The same entry without its password hash. -/
def ImportEntry.withoutHash
    (e : ImportEntry) : ImportEntry :=
  { e with passwordHashImport := none }

/-- The same request without password hashes. -/
def ImportRequest.withoutHashes
    (r : ImportRequest) : ImportRequest :=
  { r with users := r.users.map ImportEntry.withoutHash }

/-- The same call without password hashes. -/
def Call.withoutHashes : Call → Call
  | .bulkImport request => .bulkImport request.withoutHashes
  | .countUsers => .countUsers
  | .countProfiles => .countProfiles
  | .findUser id => .findUser id

/-- A service at which the end of a call does not depend on password hashes, neither on those that
it was sent before nor on those of the request at hand. -/
structure Target.IgnoresHashes
    (target : Target) : Prop where
  history : ∀ calls others call,
    calls.map Call.withoutHashes = others.map Call.withoutHashes →
      target.callEnd calls call = target.callEnd others call
  request : ∀ calls request other,
    request.withoutHashes = other.withoutHashes →
      target.callEnd calls (.bulkImport request) = target.callEnd calls (.bulkImport other)

@[simp] theorem ImportEntry.withoutHash_withoutHash
    (e : ImportEntry) :
    e.withoutHash.withoutHash = e.withoutHash := by
  rfl

@[simp] theorem ImportRequest.withoutHashes_withoutHashes
    (r : ImportRequest) :
    r.withoutHashes.withoutHashes = r.withoutHashes := by
  simp [withoutHashes, Function.comp_def]

@[simp] theorem Call.withoutHashes_withoutHashes
    (call : Call) :
    call.withoutHashes.withoutHashes = call.withoutHashes := by
  cases call <;> simp [withoutHashes]

theorem requestsOf_map_withoutHashes
    (calls : List Call) :
    requestsOf (calls.map Call.withoutHashes) =
      (requestsOf calls).map ImportRequest.withoutHashes := by
  simp only [requestsOf, List.filterMap_map, List.map_filterMap]
  refine List.filterMap_congr fun call _ => ?_
  cases call <;> rfl

namespace Target.IgnoresHashes

variable {target : Target} (htarget : target.IgnoresHashes)
include htarget

theorem reply_map
    (calls : List Call)
    (call : Call) :
    target.reply (calls.map Call.withoutHashes) call = target.reply calls call := by
  refine congrArg CallEnd.reply (htarget.history _ _ call ?_)
  simp [Function.comp_def]

/-- The lookups of a sample find the same whatever hashes were sent before. -/
theorem findings_map
    (calls : List Call)
    (users : List SampledUser) :
    target.findings (calls.map Call.withoutHashes) users = target.findings calls users := by
  induction users generalizing calls with
  | nil =>
      rfl
  | cons user rest ih =>
      have hrest := ih (calls ++ [.findUser user.id])
      rw [List.map_append] at hrest
      rw [findings, findings, htarget.reply_map]
      exact congrArg _ hrest

/-- A verification comes out the same whatever hashes were sent before. -/
theorem verify_eq
    (schedule : Schedule)
    (workers : Nat)
    (calls : List Call)
    (sourceCount : Nat)
    (sample : List SampledUser) :
    verify target schedule workers (calls.map Call.withoutHashes) sourceCount sample =
      { calls := (verify target schedule workers calls sourceCount sample).calls.map
          Call.withoutHashes
        ending := (verify target schedule workers calls sourceCount sample).ending } := by
  have hone : ∀ (before : List Call) (call : Call), call.withoutHashes = call →
      before.map Call.withoutHashes ++ [call] = (before ++ [call]).map Call.withoutHashes := by
    intro before call hcall
    simp [hcall]
  have hlookups : ∀ (before : List Call) (users : List SampledUser),
      before.map Call.withoutHashes ++ users.map (fun user => .findUser user.id) =
        (before ++ users.map fun user => Call.findUser user.id).map Call.withoutHashes := by
    intro before users
    simp [Function.comp_def, Call.withoutHashes]
  simp only [verify, hone _ .countUsers rfl, hone _ .countProfiles rfl, htarget.reply_map]
  cases countOrZero (target.reply calls .countUsers) with
  | error fault =>
      rfl
  | ok users =>
      simp only
      cases countOrZero (target.reply (calls ++ [.countUsers]) .countProfiles) with
      | error fault =>
          rfl
      | ok profiles =>
          simp only [verifySample, firstOf_min]
          cases grantPermits (max workers 1) with
          | error fault =>
              rfl
          | ok =>
              simp only [lookupAll_eq, htarget.findings_map, hlookups]

end Target.IgnoresHashes

end AccountMigration
