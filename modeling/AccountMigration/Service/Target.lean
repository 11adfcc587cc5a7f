import AccountMigration.Service.Status
import AccountMigration.Service.Wire

/-!
# The service as a run sees it

A run makes calls, and the service replies to each of them.  What the service replies may
depend on all the calls that came before, so a `Target` is a function of the history; it is
the only thing that a run knows about the service.

* `Call` and `Call.Answer`: the calls, and what a good reply to each of them holds.
* `Reply`: an answer, a failure, or the breakdown of the task that waits for the answer.
* `TargetError.message` and `TargetError.note`: the wording of a failure.
* `CallEnd`: a reply with the words that belong to it.

An answer that cannot be read and a task that breaks down are reported in the words of others: of
the reader of answers, and of whoever runs the tasks.  These words are part of the service that a
run sees, and nothing is known about them.
-/

namespace AccountMigration

/-- A call that brought no usable answer. -/
inductive TargetError where
  /-- The request could not be delivered, or its answer did not come back. -/
  | undelivered (reason : String)
  /-- The service refused the request. -/
  | status (code : Nat) (body : String)
  /-- The answer is not what it should be. -/
  | undecodable
  deriving DecidableEq

/-- A text with words of others behind it; where the words are left open, the text ends before
them. -/
def because
    (text : String) : Option String → String
  | some words => text ++ ": " ++ words
  | none => text

namespace TargetError

/-- The wording of a failed call, with the words of the reader about an answer that it cannot
read. -/
def message
    (error : TargetError)
    (words : Option String := none) : String :=
  match error with
  | .undelivered reason => "target HTTP error: " ++ reason
  | .status code body =>
      "target returned status " ++ toString code ++ " " ++ Status.phrase code ++ ": " ++ body
  | .undecodable => because "failed to decode target response" words

/-- What is noted beside the records of a request that failed. -/
def note
    (error : TargetError)
    (words : Option String) : String :=
  match error with
  | .status code body => "HTTP " ++ toString code ++ ": " ++ body
  | error => "request failed: " ++ error.message words

end TargetError

/-- A call of the service. -/
inductive Call where
  | bulkImport (request : ImportRequest)
  | countUsers
  | countProfiles
  | findUser (id : String)
  deriving DecidableEq

namespace Call

/-- What a good reply to a call holds. -/
def Answer : Call → Type
  | .bulkImport _ => ImportResponse
  | .countUsers => UInt64
  | .countProfiles => UInt64
  | .findUser _ => Option TargetUser

/-- The request of a call that imports accounts. -/
def request? : Call → Option ImportRequest
  | .bulkImport request => some request
  | _ => none

end Call

/-- How a call ends. -/
inductive Reply (α : Type) where
  | answered (value : α)
  | failed (error : TargetError)
  /-- The task that made the call broke down. -/
  | crashed

/-- A service: its replies by the calls so far and the call at hand. -/
structure Target where
  reply : List Call → (call : Call) → Reply call.Answer
  /-- What is said about an answer that cannot be read or a task that broke down, unless it is left
  open. -/
  words : List Call → Call → Option String := fun _ _ => none

/-- A reply and the words that belong to it. -/
structure CallEnd (α : Type) where
  reply : Reply α
  words : Option String

/-- How a call after other calls ends. -/
def Target.callEnd
    (target : Target)
    (calls : List Call)
    (call : Call) : CallEnd call.Answer :=
  ⟨target.reply calls call, target.words calls call⟩

/-- The requests among calls, in the order in which they were made. -/
def requestsOf
    (calls : List Call) : List ImportRequest :=
  calls.filterMap Call.request?

end AccountMigration
