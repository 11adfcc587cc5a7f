import AccountMigration.Proofs.Verification.Lookups
import AccountMigration.Service.Client

/-!
# What the answers of the service mean

Over HTTP a call is settled by the status and the body of its answer, whatever they are.  A status
of success with a body that can be read is the only good answer; a user who does not exist is
the only exception.

* `Reply.Follows`: a reply that follows from the status and the body of an answer.
* `Reply.ofAnswer_follows`, `Client.reply_bulkImport` and `Client.reply_findUser`: the replies to
  calls.
* `Reply.found_ofLookup` and `Client.found_findUser`: what a lookup finds.
* `Client.words_of_answer`: what is said about an answer that cannot be read.
* `Libraries.bodyText_of_text?`: the text of a body that is well-formed.
-/

namespace AccountMigration

open Text

namespace HttpAnswer

variable {α : Type}

/-- The status of an answer means success. -/
def Succeeds
    (answer : HttpAnswer) : Prop :=
  200 ≤ answer.status ∧ answer.status < 300

instance
    (answer : HttpAnswer) :
    Decidable answer.Succeeds :=
  inferInstanceAs (Decidable (_ ∧ _))

/-- What the body of an answer is read as. -/
def content?
    (read : Json → Option α)
    (answer : HttpAnswer) : Option α :=
  (Json.ofBytes? answer.body).bind read

/-- What a good answer holds: its status means success, and its body can be read. -/
def good?
    (read : Json → Option α)
    (answer : HttpAnswer) : Option α :=
  if answer.Succeeds then answer.content? read else none

variable {read : Json → Option α} {answer : HttpAnswer}

theorem isSuccess_iff :
    Status.isSuccess answer.status = true ↔ answer.Succeeds := by
  simp [Status.isSuccess, Succeeds]

theorem good?_eq_none_iff :
    answer.good? read = none ↔
      ¬ (answer.Succeeds ∧ ∃ value, answer.content? read = some value) := by
  unfold good?
  split <;> simp [*, Option.eq_none_iff_forall_ne_some]

theorem content?_map_some :
    answer.content? (fun v => (read v).map some) = (answer.content? read).map some := by
  rw [content?, content?]
  cases Json.ofBytes? answer.body <;> rfl

theorem not_succeeds_of_notFound
    (hmissing : answer.status = Status.notFound) :
    ¬ answer.Succeeds := by
  rw [Succeeds, hmissing]
  decide

end HttpAnswer

/-- A reply that follows from the status and the body of an answer. -/
structure Reply.Follows
    {α : Type}
    (libraries : Libraries)
    (read : Json → Option α)
    (answer : HttpAnswer)
    (reply : Reply α) : Prop where
  answered : ∀ value,
    reply = .answered value ↔ answer.Succeeds ∧ answer.content? read = some value
  refused : ∀ code text,
    reply = .failed (.status code text) ↔
      ¬ answer.Succeeds ∧ code = answer.status ∧ text = libraries.textOf answer
  undecodable : reply = .failed .undecodable ↔ answer.Succeeds ∧ answer.content? read = none

namespace Reply

variable {α : Type} {libraries : Libraries} {read : Json → Option α} {answer : HttpAnswer}

theorem ofAnswer_of_content
    (hsuccess : answer.Succeeds)
    {value : α}
    (hcontent : answer.content? read = some value) :
    ofAnswer libraries read answer = .answered value := by
  rw [HttpAnswer.content?] at hcontent
  simp only [ofAnswer, if_pos (HttpAnswer.isSuccess_iff.mpr hsuccess), hcontent]

theorem ofAnswer_of_no_content
    (hsuccess : answer.Succeeds)
    (hcontent : answer.content? read = none) :
    ofAnswer libraries read answer = .failed .undecodable := by
  rw [HttpAnswer.content?] at hcontent
  simp only [ofAnswer, if_pos (HttpAnswer.isSuccess_iff.mpr hsuccess), hcontent]

theorem ofAnswer_of_no_success
    (hsuccess : ¬ answer.Succeeds) :
    ofAnswer libraries read answer =
      .failed (.status answer.status (libraries.textOf answer)) := by
  rw [ofAnswer, if_neg]
  rwa [HttpAnswer.isSuccess_iff]

theorem ofAnswer_follows
    (libraries : Libraries)
    (read : Json → Option α)
    (answer : HttpAnswer) :
    (ofAnswer libraries read answer).Follows libraries read answer := by
  by_cases hsuccess : answer.Succeeds
  · cases hcontent : answer.content? read with
    | none =>
        rw [ofAnswer_of_no_content hsuccess hcontent]
        constructor <;> simp [hsuccess, hcontent]
    | some value =>
        rw [ofAnswer_of_content hsuccess hcontent]
        constructor <;> simp [hsuccess, hcontent]
  · rw [ofAnswer_of_no_success hsuccess]
    constructor <;> simp [hsuccess, eq_comm]

/-- A lookup finds the user of a good answer, and nobody otherwise. -/
theorem found_ofLookup
    (libraries : Libraries)
    (answer : HttpAnswer) :
    found (ofLookup libraries answer) = answer.good? TargetUser.ofJson? := by
  unfold ofLookup HttpAnswer.good?
  by_cases hsuccess : answer.Succeeds
  · rw [if_neg fun hmissing => HttpAnswer.not_succeeds_of_notFound hmissing hsuccess,
      if_pos hsuccess]
    cases hcontent : answer.content? TargetUser.ofJson? with
    | none =>
        rw [ofAnswer_of_no_content hsuccess (by rw [HttpAnswer.content?_map_some, hcontent]; rfl)]
        rfl
    | some user =>
        rw [ofAnswer_of_content hsuccess (by rw [HttpAnswer.content?_map_some, hcontent]; rfl)]
        rfl
  · rw [if_neg hsuccess]
    split
    · rfl
    · rw [ofAnswer_of_no_success hsuccess]
      rfl

end Reply

namespace Client

/-- The user of a good answer to the lookup of an id; a blank id is not looked up. -/
def found?
    (client : Client)
    (link : Link)
    (calls : List Call)
    (id : String) : Option TargetUser :=
  if isBlankText id then none
  else
    match link calls (client.lookupRequest id) with
    | .ok answer => answer.good? TargetUser.ofJson?
    | .error _ => none

theorem found?_eq_none_iff
    (client : Client)
    (link : Link)
    (calls : List Call)
    (id : String) :
    client.found? link calls id = none ↔
      isBlankText id = true ∨ ∀ answer, link calls (client.lookupRequest id) = .ok answer →
        ¬ (answer.Succeeds ∧ ∃ user, answer.content? TargetUser.ofJson? = some user) := by
  unfold found?
  cases hblank : isBlankText id with
  | true =>
      simp
  | false =>
      cases hlink : link calls (client.lookupRequest id) with
      | error reason =>
          simp
      | ok answer =>
          simp [HttpAnswer.good?_eq_none_iff]

section Replies

variable {client : Client} {link : Link} {calls : List Call} {answer : HttpAnswer}

/-- A call that can be sent is settled by its answer. -/
theorem exchange_of_answer
    {α : Type}
    {read : HttpAnswer → Reply α}
    {request : HttpRequest}
    (hhttp : request.url.isHttp = true)
    (hanswer : link calls request = .ok answer) :
    request.exchange link calls read = read answer := by
  rw [HttpRequest.exchange, if_pos hhttp, hanswer]

theorem reply_bulkImport
    (hhttp : client.base.isHttp = true)
    {request : ImportRequest}
    (hanswer : link calls (client.importRequest request) = .ok answer) :
    (client.target link).reply calls (.bulkImport request) =
      .ofAnswer client.libraries ImportResponse.ofJson? answer := by
  exact exchange_of_answer hhttp hanswer

/-- The JSON reader has words for every answer to a call. -/
theorem words_of_answer
    {call : Call}
    {request : HttpRequest}
    (hrequest : client.request? call = some request)
    (hanswer : link calls request = .ok answer) :
    (client.target link).words calls call =
      some (client.libraries.complaint call answer.body) := by
  simp [target, complaint?, hrequest, hanswer, Except.toOption]

theorem reply_findUser_of_blank
    {id : String}
    (hid : isBlankText id = true) :
    (client.target link).reply calls (.findUser id) = .answered none := by
  simp [target, reply, hid]

theorem reply_findUser
    (hhttp : client.base.isHttp = true)
    {id : String}
    (hid : isBlankText id = false)
    (hanswer : link calls (client.lookupRequest id) = .ok answer) :
    (client.target link).reply calls (.findUser id) = .ofLookup client.libraries answer := by
  simp only [target, reply, hid, Bool.false_eq_true, if_false]
  exact exchange_of_answer hhttp hanswer

theorem found_findUser
    (hhttp : client.base.isHttp = true)
    (id : String) :
    Reply.found ((client.target link).reply calls (.findUser id)) =
      client.found? link calls id := by
  unfold found?
  cases hid : isBlankText id with
  | true =>
      rw [reply_findUser_of_blank hid]
      rfl
  | false =>
      cases hlink : link calls (client.lookupRequest id) with
      | error reason =>
          have hurl : (client.lookupRequest id).url.isHttp = true := hhttp
          simp [target, reply, hid, HttpRequest.exchange, hurl, hlink, Reply.found]
      | ok answer =>
          rw [reply_findUser hhttp hid hlink, Reply.found_ofLookup]
          rfl

end Replies

end Client

/-- Symbols that all stand for characters. -/
theorem symbols_of_mapM
    {symbols : List Symbol}
    {cs : List Char}
    (h : symbols.mapM id = some cs) :
    symbols = cs.map some := by
  induction symbols generalizing cs with
  | nil =>
      simp at h
      simp [h]
  | cons symbol symbols ih =>
      simp only [List.mapM_cons, id_eq, Option.bind_eq_bind, Option.bind_eq_some_iff,
        Option.pure_def, Option.some.injEq] at h
      obtain ⟨c, rfl, rest, hrest, rfl⟩ := h
      rw [ih hrest, List.map_cons]

/-- A body of well-formed UTF-8 without a byte order mark is that text, unless another character set
is named that is known. -/
theorem Libraries.bodyText_of_text?
    (libraries : Libraries)
    {charset : Option String}
    (hcharset : charset.bind libraries.decoder? = none)
    {body : List UInt8}
    {s : String}
    (htext : Utf8.text? body = some s)
    (hmark : s.toList.head? ≠ some '\uFEFF') :
    libraries.bodyText charset body = s := by
  obtain ⟨cs, hcs, rfl⟩ := Option.map_eq_some_iff.mp htext
  have hsymbols := symbols_of_mapM hcs
  rw [String.toList_ofList] at hmark
  unfold bodyText
  split
  · rename_i rest
    have hfirst : (Utf8.symbols (0xEF :: 0xBB :: 0xBF :: rest)).head? = some (some '\uFEFF') := rfl
    rw [hsymbols, List.head?_map] at hfirst
    exact absurd (by simpa using hfirst) hmark
  -- the marks of UTF-16 are not well-formed UTF-8
  · rename_i rest
    have hfirst : (Utf8.symbols (0xFF :: 0xFE :: rest)).head? = some none := rfl
    simp [hsymbols] at hfirst
  · rename_i rest
    have hfirst : (Utf8.symbols (0xFE :: 0xFF :: rest)).head? = some none := rfl
    simp [hsymbols] at hfirst
  · rw [decode, hcharset, Option.getD_none, Utf8.lossy, hsymbols, List.map_map]
    simp [Function.comp_def]

end AccountMigration
