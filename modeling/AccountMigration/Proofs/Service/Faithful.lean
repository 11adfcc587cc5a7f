import AccountMigration.Service.Target
import Mathlib.Data.List.Basic

/-!
# Services that keep what they are sent

A faithful service accepts every import, keeps each account under the id and with the email
address that were sent, and answers a lookup from what it keeps.

* `sentEntries`: the accounts that were sent among calls.
* `Target.Faithful`: the service answers lookups from the accounts that were sent.
* `storingTarget`: a service that looks through the accounts that were sent.
-/

namespace AccountMigration

/-- The accounts that were sent among calls, in order. -/
def sentEntries
    (calls : List Call) : List ImportEntry :=
  (requestsOf calls).flatMap (·.users)

/-- A lookup of an id shows a kept account when it shows the email address of an account that
was sent under this id, or nobody when there is no such account. -/
def ShowsSent
    (sent : List ImportEntry)
    (id : String) : Option TargetUser → Prop
  | none => ∀ entry ∈ sent, entry.id ≠ some id
  | some user => ∃ entry ∈ sent, entry.id = some id ∧ user.email = entry.email

/-- A service that accepts every import and answers lookups from the accounts that were sent. -/
structure Target.Faithful
    (target : Target) : Prop where
  accepts : ∀ calls request, ∃ response,
    target.reply calls (.bulkImport request) = .answered response
  finds : ∀ calls id, ∃ found,
    target.reply calls (.findUser id) = .answered found ∧
      ShowsSent (sentEntries calls) id found

/-- A service whose counts do not break down. -/
def Target.Counts
    (target : Target) : Prop :=
  ∀ calls, target.reply calls .countUsers ≠ .crashed ∧
    target.reply calls .countProfiles ≠ .crashed

section Sent

theorem requestsOf_append
    (calls more : List Call) :
    requestsOf (calls ++ more) = requestsOf calls ++ requestsOf more := by
  exact List.filterMap_append

theorem sentEntries_append
    (calls more : List Call) :
    sentEntries (calls ++ more) = sentEntries calls ++ sentEntries more := by
  rw [sentEntries, requestsOf_append, List.flatMap_append]
  rfl

/-- Counts and lookups send no account. -/
theorem sentEntries_of_no_request
    {calls : List Call}
    (hcalls : ∀ call ∈ calls, call.request? = none) :
    sentEntries calls = [] := by
  have hrequests : requestsOf calls = [] := List.filterMap_eq_nil_iff.mpr hcalls
  rw [sentEntries, hrequests, List.flatMap_nil]

end Sent

/-- A service that looks through the accounts that were sent. -/
def storingTarget : Target where
  reply calls call :=
    match call with
    | .bulkImport _ => .answered { }
    | .countUsers => .answered (UInt64.ofNat (sentEntries calls).length)
    | .countProfiles => .answered (UInt64.ofNat (sentEntries calls).length)
    | .findUser id =>
        .answered (((sentEntries calls).find? fun entry => entry.id = some id).map
          fun entry => { id := entry.id, email := entry.email, username := entry.username })

theorem storingTarget_faithful :
    storingTarget.Faithful where
  accepts := by
    intro calls request
    exact ⟨_, rfl⟩
  finds := by
    intro calls id
    refine ⟨_, rfl, ?_⟩
    cases hfind : (sentEntries calls).find? fun entry => entry.id = some id with
    | none =>
        intro entry hentry
        simpa using List.find?_eq_none.mp hfind entry hentry
    | some entry =>
        refine ⟨entry, List.mem_of_find?_eq_some hfind, ?_, rfl⟩
        simpa using List.find?_some hfind

theorem storingTarget_counts :
    storingTarget.Counts := by
  intro calls
  constructor
  · intro h
    cases h
  · intro h
    cases h

end AccountMigration
