import AccountMigration.Proofs.Import.Reconciled
import AccountMigration.Proofs.Import.Sequence
import AccountMigration.Proofs.Service.Answers
import AccountMigration.Proofs.Service.LookupUrl
import AccountMigration.Proofs.Verification.Calls

/-!
# Batches and verifications over HTTP

An import and a verification deal with bad answers in opposite ways: a batch with a bad answer is an
error for each of its records, and a lookup with a bad answer finds nobody.  Neither of them is
stopped by an answer.

* `BatchEnd.Accepts` and `BatchEnd.Rejects`: a batch whose records have the results that the
  response tells, and one whose records are all errors.
* `BatchEnd.Follows` and `Client.importBatch_follows`: what a batch comes to by its answer.
* `Client.missingUsers_verify`: the users that a verification lists as missing.
* `Client.exists_report_iff`: when a verification over HTTP comes to its report.
* `Client.answers_settle_calls`: what the answers mean for calls, batches and verifications.
-/

namespace AccountMigration

open Text

/-- A batch is accepted: each record has the result that the details of the response tell, and the
counters are those of the response. -/
def BatchEnd.Accepts
    (index : Nat)
    (batch : List SourceRecord)
    (response : ImportResponse)
    (ending : BatchEnd) : Prop :=
  ∃ results,
    Reconciles batch response.details results ∧
    ending = .accepted
      { index
        results
        stats :=
          { total := batch.length
            created := response.imported.toNat
            existing := 0
            skipped := response.skipped.toNat
            updated := response.updated.toNat
            errors := response.errors.toNat } }

/-- A batch is rejected, and each of its records is an error with the same note. -/
structure BatchEnd.Rejects
    (index : Nat)
    (batch : List SourceRecord)
    (note : String)
    (ending : BatchEnd) : Prop where
  rejected : ending = .rejected (.ofBatch index batch note)
  results : ∀ words, ending.results batch words =
    batch.map fun r =>
      { sourceId := r.id, targetId := none, status := .error, note }

/-- An end of a batch that follows from the status and the body of the answer to its request.  A
body that cannot be read is reported with the words of the reader. -/
structure BatchEnd.Follows
    (libraries : Libraries)
    (call : Call)
    (index : Nat)
    (batch : List SourceRecord)
    (answer : HttpAnswer)
    (ending : BatchEnd) : Prop where
  reconciled : ∀ response,
    answer.Succeeds → answer.content? ImportResponse.ofJson? = some response →
      ending.Accepts index batch response
  refused : ¬ answer.Succeeds →
    ending.Rejects index batch
      ("HTTP " ++ toString answer.status ++ ": " ++ libraries.textOf answer)
  undecodable : answer.Succeeds → answer.content? ImportResponse.ofJson? = none →
    ending.Rejects index batch
      ("request failed: failed to decode target response: "
        ++ libraries.complaint call answer.body)

theorem BatchEnd.accepts_of_answered
    (index : Nat)
    (batch : List SourceRecord)
    (response : ImportResponse)
    (words : Option String) :
    (ofCall index batch ⟨.answered response, words⟩).Accepts index batch response := by
  exact ⟨_, reconcile_reconciles batch response.details, rfl⟩

theorem BatchEnd.rejects_of_failed
    (index : Nat)
    (batch : List SourceRecord)
    (error : TargetError)
    (words : Option String) :
    (ofCall index batch ⟨.failed error, words⟩).Rejects index batch (error.note words) := by
  refine ⟨rfl, fun _ => ?_⟩
  exact List.map_map

/-- The note of an answer that cannot be read. -/
theorem TargetError.note_undecodable
    (words : String) :
    undecodable.note (some words) =
      "request failed: failed to decode target response: " ++ words := by
  have hfront : "request failed: " ++ "failed to decode target response" ++ ": " =
      "request failed: failed to decode target response: " := by
    decide
  rw [← hfront, String.append_assoc, String.append_assoc]
  rfl

namespace Client

/-- A batch comes to what the answer to its request says. -/
theorem importBatch_follows
    {client : Client}
    (hhttp : client.base.isHttp = true)
    {link : Link}
    {calls : List Call}
    {rules : EntryRules}
    {onConflict : ConflictStrategy}
    {batch : List SourceRecord}
    {answer : HttpAnswer}
    (hanswer : link calls (client.importRequest (requestOf rules onConflict batch)) = .ok answer)
    (index : Nat) :
    (importBatch (client.target link) rules onConflict calls index batch).Follows
      client.libraries (.bulkImport (requestOf rules onConflict batch)) index batch answer := by
  have hend : importBatch (client.target link) rules onConflict calls index batch =
      .ofCall index batch
        ⟨.ofAnswer client.libraries ImportResponse.ofJson? answer,
          some (client.libraries.complaint (.bulkImport (requestOf rules onConflict batch))
            answer.body)⟩ := by
    rw [importBatch, Target.callEnd, reply_bulkImport hhttp hanswer, words_of_answer rfl hanswer]
    rfl
  rw [hend]
  constructor
  · intro response hsuccess hcontent
    rw [Reply.ofAnswer_of_content hsuccess hcontent]
    exact BatchEnd.accepts_of_answered index batch response _
  · intro hsuccess
    rw [Reply.ofAnswer_of_no_success hsuccess]
    exact BatchEnd.rejects_of_failed index batch (.status _ _) _
  · intro hsuccess hcontent
    rw [Reply.ofAnswer_of_no_content hsuccess hcontent, ← TargetError.note_undecodable]
    exact BatchEnd.rejects_of_failed index batch .undecodable _

/-- A client never breaks down on a count. -/
theorem target_counts
    (client : Client)
    (link : Link) :
    (client.target link).Counts := by
  have hexchange : ∀ calls (request : HttpRequest),
      request.exchange link calls (.ofAnswer client.libraries readTotal?) ≠ .crashed := by
    intro calls request
    unfold HttpRequest.exchange Reply.ofAnswer
    split
    · split
      · split
        · split <;> simp
        · simp
      · simp
    · simp
  exact fun calls => ⟨hexchange calls _, hexchange calls _⟩

/-- The users in front of a sample that are looked up, with their positions. -/
def checked
    (sample : List SampledUser) : List (SampledUser × Nat) :=
  (sample.take sampleLimit).zipIdx

/-- The calls in front of the lookup at a position. -/
def callsBefore
    (calls : List Call)
    (sample : List SampledUser)
    (position : Nat) : List Call :=
  calls ++ [.countUsers, .countProfiles] ++
    (sample.take position).map fun user => .findUser user.id

section Verify

variable {client : Client} {link : Link} {schedule : Schedule} {workers sourceCount : Nat}
  {calls : List Call} {sample : List SampledUser}

/-- A verification over HTTP lists the users as missing whose lookups find nobody. -/
theorem missingUsers_verify
    (hhttp : client.base.isHttp = true)
    {report : VerificationReport}
    (hending : (verify (client.target link) schedule workers calls sourceCount sample).ending =
      .ok report) :
    report.missingUsers =
      ((checked sample).filter fun p =>
        (client.found? link (callsBefore calls sample p.2) p.1.id).isNone).map
          fun p => ⟨p.1.id, p.1.email.getD ""⟩ := by
  obtain ⟨-, hmissing, -⟩ := verify_ok hending
  rw [hmissing, lookedUp_eq, List.filterMap_map, ← List.filterMap_eq_filter, List.map_filterMap]
  refine List.filterMap_congr fun p _ => ?_
  have hfoundAt : (client.target link).foundAt calls sample p.2 p.1 =
      client.found? link (callsBefore calls sample p.2) p.1.id := found_findUser hhttp p.1.id
  simp only [Function.comp_apply, hfoundAt, Option.guard]
  rcases Option.eq_none_or_eq_some (client.found? link (callsBefore calls sample p.2) p.1.id) with
    hfound | ⟨user, hfound⟩ <;> simp [hfound, missingOf?]

/-- No answer keeps a verification from its report; only the number of workers can. -/
theorem exists_report_iff :
    (∃ report,
      (verify (client.target link) schedule workers calls sourceCount sample).ending =
        .ok report) ↔
      workers ≤ permitLimit := by
  constructor
  · rintro ⟨report, hreport⟩
    exact (verify_ok hreport).1
  · intro hworkers
    have hcounts := client.target_counts link
    exact exists_verify_ok hworkers (hcounts calls).1 (hcounts (calls ++ [.countUsers])).2

end Verify

/--
What the answers over HTTP mean, whatever their status, their body and its character set.  The reply
to an import follows from the answer, and so does the reply to a lookup, where a missing resource
means that nobody was found; a blank id is not looked up.  A batch is reconciled record by record
for a good answer and rejected for any other.  A verification lists the checked users as missing
whose ids are blank or whose lookups had no good answer, and no answer keeps it from its report. -/
theorem answers_settle_calls
    (client : Client)
    (hhttp : client.base.isHttp = true)
    (link : Link) :
    (∀ calls request answer, link calls (client.importRequest request) = .ok answer →
      ((client.target link).reply calls (.bulkImport request)).Follows
        client.libraries ImportResponse.ofJson? answer) ∧
    (∀ calls id, isBlankText id = true →
      client.request? (.findUser id) = none ∧
      (client.target link).reply calls (.findUser id) = .answered none) ∧
    (∀ calls id answer, isBlankText id = false →
      link calls (client.lookupRequest id) = .ok answer →
      (answer.status = Status.notFound →
        (client.target link).reply calls (.findUser id) = .answered none) ∧
      (answer.status ≠ Status.notFound →
        ((client.target link).reply calls (.findUser id)).Follows
          client.libraries (fun v => (TargetUser.ofJson? v).map some) answer)) ∧
    (∀ rules onConflict calls index batch answer,
      link calls (client.importRequest (requestOf rules onConflict batch)) = .ok answer →
      (importBatch (client.target link) rules onConflict calls index batch).Follows
        client.libraries (.bulkImport (requestOf rules onConflict batch)) index batch answer) ∧
    (∀ schedule workers calls sourceCount sample,
      (∀ report,
        (verify (client.target link) schedule workers calls sourceCount sample).ending =
          .ok report →
        report.missingUsers =
          ((checked sample).filter fun p =>
            (client.found? link (callsBefore calls sample p.2) p.1.id).isNone).map
              fun p => ⟨p.1.id, p.1.email.getD ""⟩) ∧
      ((∃ report,
        (verify (client.target link) schedule workers calls sourceCount sample).ending =
          .ok report) ↔
        workers ≤ permitLimit)) ∧
    (∀ calls id, client.found? link calls id = none ↔
      isBlankText id = true ∨ ∀ answer, link calls (client.lookupRequest id) = .ok answer →
        ¬ (answer.Succeeds ∧ ∃ user, answer.content? TargetUser.ofJson? = some user)) := by
  refine ⟨?_, ?_, ?_, ?_, ?_, ?_⟩
  · intro calls request answer hanswer
    rw [reply_bulkImport hhttp hanswer]
    exact Reply.ofAnswer_follows _ _ _
  · intro calls id hid
    exact ⟨by simp [request?, hid], reply_findUser_of_blank hid⟩
  · intro calls id answer hid hanswer
    rw [reply_findUser hhttp hid hanswer, Reply.ofLookup]
    refine ⟨fun hmissing => if_pos hmissing, fun hother => ?_⟩
    rw [if_neg hother]
    exact Reply.ofAnswer_follows _ _ _
  · intro rules onConflict calls index batch answer hanswer
    exact importBatch_follows hhttp hanswer index
  · intro schedule workers calls sourceCount sample
    exact ⟨fun report hreport => missingUsers_verify hhttp hreport, exists_report_iff⟩
  · exact client.found?_eq_none_iff link

/-- A service behind a broken gateway that has one account: it takes no imports, and only this
account is found. -/
def gatewayLink : Link := fun _ request =>
  match request.method with
  | .post => .ok { status := 502, body := Utf8.bytes "bad gateway" }
  | .get =>
      if request.url.path = (localClient.lookupRequest "u-1").url.path then
        .ok { status := 200, body := Utf8.bytes "\x7b\"id\":\"u-1\"\x7d" }
      else .ok { status := 404, body := [] }

/-- A batch is rejected with the text of the answer, and of three users the one with a blank id and
the one without an account are missing. -/
theorem gateway_settles_calls :
    localClient.base.isHttp = true ∧
    (importBatch (localClient.target gatewayLink) {} .skip [] 0 [{ id := "1" }]).results
        [{ id := "1" }] none = [.failed "HTTP 502: bad gateway" "1"] ∧
    ∃ report,
      (verify (localClient.target gatewayLink) .inOrder 4 [] 1
        [⟨" ", none⟩, ⟨"u-1", none⟩, ⟨"u-2", some "eve@x.org"⟩]).ending = .ok report ∧
      report.missingUsers = [⟨" ", ""⟩, ⟨"u-2", "eve@x.org"⟩] := by
  have hhttp : localClient.base.isHttp = true := by decide
  obtain ⟨-, -, -, hbatch, hverify, -⟩ := answers_settle_calls localClient hhttp gatewayLink
  have hfollows := hbatch {} .skip [] 0 [{ id := "1" }]
    { status := 502, body := Utf8.bytes "bad gateway" } rfl
  have hrejects := hfollows.refused (by decide)
  obtain ⟨hmissing, hends⟩ := hverify .inOrder 4 [] 1
    [⟨" ", none⟩, ⟨"u-1", none⟩, ⟨"u-2", some "eve@x.org"⟩]
  obtain ⟨report, hreport⟩ := hends.mpr (by decide)
  refine ⟨hhttp, ?_, report, hreport, ?_⟩
  · rw [hrejects.results, Libraries.textOf, localClient.libraries.bodyText_of_text? rfl
      (s := "bad gateway") (by decide +kernel) (by decide)]
    rfl
  · rw [hmissing report hreport]
    decide +kernel

end Client
end AccountMigration
