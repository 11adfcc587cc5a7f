import AccountMigration.Proofs.Json.Texts
import AccountMigration.Proofs.Service.MessageFields
import AccountMigration.Proofs.Service.OverHttp
import Mathlib.Logic.Relation

/-!
# Changes of the text of a message

The service may write the members of a message in any order, leave out those with default values and
add others.  It may not write a declared name twice, a name that is not Unicode text, or a counter
that is negative, has a fraction or an exponent, or exceeds 64 bits: such a text is no message, and
a call that it answers has failed.

* `DetailPlace` and `Message.placesDetails`: the places of the details in the text of a response.
* `Message.Edit` and `Message.Edit.decode_eq`: changes that keep what a message says.
* `Message.Spoilt` and `Message.Spoilt.fails`: texts that are no messages, and calls that fail by
  them.
* `Message.decode_by_name`: all of this for the text of a message.
* `Message.count_refuses_nameless_member`: a name that no record declares can be an error.
-/

namespace AccountMigration

open Json (MemberText ObjectText ArrayText ValueText Margins)
open Text (isBlankText)

/-- The place of a detail in the text of a response: everything around the detail. -/
structure DetailPlace where
  margins : Margins
  front : List MemberText
  back : List MemberText
  nameText : List Symbol
  reads : Json.ofSymbols? nameText = some (.text "details")
  arrayMargins : Margins
  before : List ValueText
  after : List ValueText

namespace DetailPlace

/-- The array of details, with a detail in its place. -/
def array
    (p : DetailPlace)
    (detail : ObjectText) : ArrayText :=
  ⟨p.arrayMargins, p.before ++ detail.toValueText :: p.after⟩

/-- The text of a response, with a detail in its place. -/
def fill
    (p : DetailPlace)
    (detail : ObjectText) : ObjectText :=
  ⟨p.margins, p.front ++ ⟨p.nameText, "details", p.reads, (p.array detail).toValueText⟩ :: p.back⟩

end DetailPlace

/-- Every detail of a text has a place there: an object among the items of a member for the
details. -/
def PlacesDetails
    (t : ObjectText) : Prop :=
  ∀ (front back : List MemberText) (member : MemberText) (before after : List Json)
    (ms : List (Option String × Json)),
    t.members = front ++ member :: back → member.name = some "details" →
      member.value.value = .arr (before ++ .obj ms :: after) →
        ∃ (p : DetailPlace) (detail : ObjectText),
          t = p.fill detail ∧ detail.members.map (·.member) = ms ∧
            p.before.length = before.length

namespace Message

/-- Read a message from its text. -/
def decode
    (m : Message)
    (text : List Symbol) : Option m.Content :=
  (Json.ofSymbols? text).bind m.ofJson?

/-- Changes of the text of a message that do not change the message; white space around the members
may change with them. -/
inductive Edit : Message → ObjectText → ObjectText → Prop where
  | reorder {m : Message} (margins margins' : Margins) {members members' : List MemberText} :
      members.Perm members' → Edit m ⟨margins, members⟩ ⟨margins', members'⟩
  | insert {m : Message} (margins margins' : Margins) (front back : List MemberText)
      {member : MemberText} {name : String} :
      member.name = some name → name ∉ m.names →
        Edit m ⟨margins, front ++ back⟩ ⟨margins', front ++ member :: back⟩
  | drop {m : Message} (margins margins' : Margins) (front back : List MemberText)
      {member : MemberText} {name : String} {kind : FieldKind} :
      (name, kind) ∈ m.fields → member.name = some name → member.value.value = kind.default →
        Edit m ⟨margins, front ++ member :: back⟩ ⟨margins', front ++ back⟩
  | inside (p : DetailPlace) {detail detail' : ObjectText} :
      Edit .detail detail detail' → Edit .response (p.fill detail) (p.fill detail')

/-- Texts that are no messages. -/
inductive Spoilt : Message → ObjectText → Prop where
  | repeated {m : Message} (margins : Margins) (front between back : List MemberText)
      {first second : MemberText} {name : String} :
      name ∈ m.names → first.name = some name → second.name = some name →
        Spoilt m ⟨margins, front ++ first :: (between ++ second :: back)⟩
  | counter {m : Message} (margins : Margins) (front back : List MemberText)
      {member : MemberText} {name : String} {spelling : List Char} :
      (name, .counter) ∈ m.fields → member.name = some name → member.value.IsNumber spelling →
        Json.Unfit spelling → Spoilt m ⟨margins, front ++ member :: back⟩
  | nameless {m : Message} (margins : Margins) (front back : List MemberText)
      {member : MemberText} :
      member.name = none → Spoilt m ⟨margins, front ++ member :: back⟩
  | inside (p : DetailPlace) {detail : ObjectText} :
      Spoilt .detail detail → Spoilt .response (p.fill detail)

section Decode

variable {m : Message} {t t' : ObjectText} {c : m.Content}

theorem decode_text
    (m : Message)
    (t : ObjectText) :
    m.decode t.text = m.ofJson? (.obj (t.members.map (·.member))) := by
  rw [decode, t.reads, Option.bind_some, ObjectText.value]

theorem areMembers_of_decode
    (h : m.decode t.text = some c) :
    Json.areMembers m.names (t.members.map (·.member)) = true := by
  rw [decode_text] at h
  exact (of_ofJson?_obj h).1

/-- A text whose members are read in the same way. -/
theorem decode_of_sameFields
    (h : m.decode t.text = some c)
    (hsame : Json.SameFields m.defaults (t.members.map (·.member)) (t'.members.map (·.member))) :
    m.decode t'.text = some c := by
  have hms := areMembers_of_decode h
  rw [decode_text] at h ⊢
  rw [ofJson?_obj_of_sameFields hms hsame, h]

/-- The members of a response around its details. -/
theorem map_member_fill
    (p : DetailPlace)
    (detail : ObjectText) :
    (p.fill detail).members.map (·.member) =
      p.front.map (·.member) ++
        (some "details", (p.array detail).value) :: p.back.map (·.member) := by
  rw [DetailPlace.fill, List.map_append, List.map_cons]
  rfl

/-- The details of a response are read one by one. -/
theorem fieldIn_fill
    (p : DetailPlace)
    (detail : ObjectText)
    (hms : Json.areMembers Message.response.names ((p.fill detail).members.map (·.member)) = true) :
    fieldIn ((p.fill detail).members.map (·.member)) "details" .details =
      ((p.before.map (·.value)).mapM ImportDetail.ofJson?).bind fun before =>
        (ImportDetail.ofJson? detail.value).bind fun d =>
          ((p.after.map (·.value)).mapM ImportDetail.ofJson?).bind fun after =>
            some (before ++ d :: after) := by
  rw [map_member_fill] at hms ⊢
  rw [fieldIn, Json.valueOf_member hms (by decide), ArrayText.value, DetailPlace.array,
    List.map_append, List.map_cons]
  simp [FieldKind.read?, Json.list?, ObjectText.toValueText, Option.bind_assoc]

/-- A response can be read only when each of its details can. -/
theorem exists_decode_of_fill
    {p : DetailPlace}
    {detail : ObjectText}
    {c : Message.response.Content}
    (h : Message.response.decode (p.fill detail).text = some c) :
    ∃ d, Message.detail.decode detail.text = some d := by
  rw [decode_text] at h
  obtain ⟨hms, hfields⟩ := of_ofJson?_obj h
  obtain ⟨value, hvalue⟩ := hfields ("details", .details) (by decide)
  rw [fieldIn_fill p detail hms] at hvalue
  obtain ⟨before, -, hrest⟩ := Option.bind_eq_some_iff.mp hvalue
  obtain ⟨d, hd, -⟩ := Option.bind_eq_some_iff.mp hrest
  exact ⟨d, by rw [decode_text]; exact hd⟩

/-- Details that are read alike are read alike in a response. -/
theorem decode_fill_congr
    {p : DetailPlace}
    {detail detail' : ObjectText}
    {c : Message.response.Content}
    (h : Message.response.decode (p.fill detail).text = some c)
    (hdetail : Message.detail.decode detail'.text = Message.detail.decode detail.text) :
    Message.response.decode (p.fill detail').text = some c := by
  have hms := areMembers_of_decode h
  have hms' : Json.areMembers Message.response.names
      ((p.fill detail').members.map (·.member)) = true := by
    rw [map_member_fill] at hms ⊢
    rwa [Json.areMembers_append_cons]
  have hread : ImportDetail.ofJson? detail'.value = ImportDetail.ofJson? detail.value := by
    rw [decode_text, decode_text] at hdetail
    exact hdetail
  rw [decode_text] at h ⊢
  rw [← h]
  refine ofJson?_obj_congr hms hms' fun f hf => ?_
  by_cases hname : f.1 = "details"
  · obtain rfl : f = ("details", .details) :=
      List.inj_on_of_nodup_map (names_nodup .response) hf (by decide) hname
    rw [fieldIn_fill p detail hms, fieldIn_fill p detail' hms', hread]
  · have hother : some "details" ≠ some f.1 := by simpa using Ne.symm hname
    rw [map_member_fill, map_member_fill, fieldIn, fieldIn, Json.valueOf_append_cons_of_ne hother,
      Json.valueOf_append_cons_of_ne hother]

/-- A change of the text keeps what the message says. -/
theorem Edit.decode_eq
    (hedit : Edit m t t')
    (h : m.decode t.text = some c) :
    m.decode t'.text = some c := by
  induction hedit with
  | @reorder m margins margins' members members' hperm =>
      have hms := areMembers_of_decode h
      rw [← map_fst_defaults] at hms
      exact decode_of_sameFields h (.of_perm hms (hperm.map _))
  | @insert m margins margins' front back member name hname hother =>
      have hms := areMembers_of_decode h
      rw [← map_fst_defaults] at hms hother
      refine decode_of_sameFields h ?_
      simp only [List.map_append, List.map_cons, MemberText.member, hname] at hms ⊢
      exact .of_insert hms hother _
  | @drop m margins margins' front back member name kind hfield hname hvalue =>
      have hms := areMembers_of_decode h
      have hnodup := names_nodup m
      rw [← map_fst_defaults] at hms hnodup
      refine decode_of_sameFields h ?_
      simp only [List.map_append, List.map_cons, MemberText.member, hname, hvalue] at hms ⊢
      exact .of_drop hms hnodup (List.mem_map_of_mem hfield)
  | inside p hedit ih =>
      obtain ⟨d, hd⟩ := exists_decode_of_fill h
      exact decode_fill_congr h (by rw [hd, ih hd])

/-- A text that is no message cannot be read. -/
theorem Spoilt.decode_eq
    (h : Spoilt m t) :
    m.decode t.text = none := by
  induction h with
  | @repeated m margins front between back first second name hname hfirst hsecond =>
      rw [decode_text, ofJson?_obj, if_neg]
      simp only [List.map_append, List.map_cons, MemberText.member, hfirst, hsecond]
      rw [Json.areMembers_of_repeated hname]
      exact Bool.false_ne_true
  | @counter m margins front back member name spelling hfield hname hnumber hunfit =>
      rw [decode_text, ofJson?_obj]
      split
      case isFalse => rfl
      case isTrue hms =>
        refine assemble_eq_none hfield ?_
        simp only [List.map_append, List.map_cons, MemberText.member, hname] at hms ⊢
        rw [fieldIn, Json.valueOf_member hms (List.mem_map_of_mem hfield)]
        exact (Json.word?_eq_none_iff hnumber.number?_eq).mpr hunfit
  | @nameless m margins front back member hname =>
      rw [decode_text, ofJson?_obj, if_neg]
      simp only [List.map_append, List.map_cons, MemberText.member, hname]
      rw [Json.areMembers_of_nameless]
      exact Bool.false_ne_true
  | inside p hspoilt ih =>
      rw [Option.eq_none_iff_forall_ne_some]
      intro c hc
      obtain ⟨d, hd⟩ := exists_decode_of_fill hc
      rw [ih] at hd
      cases hd

/-- Any number of changes keeps what the message says. -/
theorem decode_of_edits
    (hedits : Relation.ReflTransGen m.Edit t t')
    (h : m.decode t.text = some c) :
    m.decode t'.text = some c := by
  induction hedits with
  | refl => exact h
  | tail _ hedit ih => exact hedit.decode_eq ih

end Decode

/-- Every detail has its place in the text. -/
theorem placesDetails
    (t : ObjectText) :
    PlacesDetails t := by
  obtain ⟨margins, members⟩ := t
  rintro front back ⟨nameText, name, hreads, text, value, harray⟩ before after ms rfl hname hvalue
  obtain rfl : name = some "details" := hname
  obtain rfl : value = .arr (before ++ .obj ms :: after) := hvalue
  obtain ⟨⟨arrayMargins, items⟩, rfl, hitems⟩ := Json.ofSymbols?_arr_iff.mp harray
  obtain ⟨front', rest, rfl, hfront, hrest⟩ := List.map_eq_append_iff.mp hitems
  obtain ⟨⟨itemText, itemValue, hitemReads⟩, back', rfl, hitem, hback⟩ :=
    List.map_eq_cons_iff.mp hrest
  obtain rfl : itemValue = .obj ms := hitem
  obtain ⟨detail, rfl, rfl⟩ := Json.ofSymbols?_obj_iff.mp hitemReads
  let place : DetailPlace :=
    ⟨margins, front, back, nameText, hreads, arrayMargins, front', back'⟩
  refine ⟨place, detail, ?_, rfl, ?_⟩
  · subst hfront hback
    simp [place, DetailPlace.fill, DetailPlace.array, ArrayText.toValueText, ArrayText.value,
      ObjectText.toValueText, ObjectText.value]
  · rw [← hfront, List.length_map]

end Message

/-! ## What becomes of a call -/

/-- The message that answers a call. -/
def Call.message : Call → Message
  | .bulkImport _ => .response
  | .countUsers => .count
  | .countProfiles => .count
  | .findUser _ => .user

/-- A call of a client is answered with success and with the given text. -/
structure Client.Receives
    (client : Client)
    (link : Link)
    (calls : List Call)
    (call : Call)
    (text : List Symbol) : Prop where
  isHttp : client.base.isHttp = true
  answered : ∃ request answer, client.request? call = some request ∧
    link calls request = .ok answer ∧ answer.Succeeds ∧ Utf8.symbols answer.body = text

/-- A text that cannot be read makes every call fail that it answers. -/
theorem Client.Receives.reply_eq
    {client : Client}
    {link : Link}
    {calls : List Call}
    {call : Call}
    {text : List Symbol}
    (h : client.Receives link calls call text)
    (hdecode : call.message.decode text = none) :
    (client.target link).reply calls call = .failed .undecodable := by
  obtain ⟨request, answer, hrequest, hlink, hsuccess, rfl⟩ := h.answered
  cases call with
  | bulkImport batch =>
      obtain rfl := Option.some.inj hrequest
      rw [reply_bulkImport h.isHttp hlink]
      exact Reply.ofAnswer_of_no_content hsuccess hdecode
  | countUsers =>
      obtain rfl := Option.some.inj hrequest
      exact (exchange_of_answer h.isHttp hlink).trans
        (Reply.ofAnswer_of_no_content hsuccess hdecode)
  | countProfiles =>
      obtain rfl := Option.some.inj hrequest
      exact (exchange_of_answer h.isHttp hlink).trans
        (Reply.ofAnswer_of_no_content hsuccess hdecode)
  | findUser id =>
      cases hid : isBlankText id with
      | true => simp [request?, hid] at hrequest
      | false =>
          obtain rfl : client.lookupRequest id = request := by
            simpa [request?, hid] using hrequest
          rw [reply_findUser h.isHttp hid hlink, Reply.ofLookup,
            if_neg fun hmissing => HttpAnswer.not_succeeds_of_notFound hmissing hsuccess]
          refine Reply.ofAnswer_of_no_content hsuccess ?_
          rw [HttpAnswer.content?_map_some]
          exact congrArg (Option.map some) hdecode

/-- The JSON reader has words for every text that answers a call. -/
theorem Client.Receives.exists_words
    {client : Client}
    {link : Link}
    {calls : List Call}
    {call : Call}
    {text : List Symbol}
    (h : client.Receives link calls call text) :
    ∃ reason, (client.target link).words calls call = some reason := by
  obtain ⟨request, answer, hrequest, hlink, -, -⟩ := h.answered
  exact ⟨_, words_of_answer hrequest hlink⟩

namespace Message

/-- A text fails as a message: it cannot be read, so calls that it answers fail, and a batch whose
request it answers is rejected for the reason that the reader gives. -/
structure Fails
    (m : Message)
    (t : ObjectText) : Prop where
  unreadable : m.decode t.text = none
  reply : ∀ {client : Client} {link calls call}, call.message = m →
    client.Receives link calls call t.text →
      (client.target link).reply calls call = .failed .undecodable
  batch : ∀ {client : Client} {link calls rules onConflict batch} (index : Nat), m = .response →
    client.Receives link calls (.bulkImport (requestOf rules onConflict batch)) t.text →
      ∃ reason,
        (client.target link).words calls (.bulkImport (requestOf rules onConflict batch)) =
          some reason ∧
        (importBatch (client.target link) rules onConflict calls index batch).Rejects index batch
          ("request failed: failed to decode target response: " ++ reason)

theorem Spoilt.fails
    {m : Message}
    {t : ObjectText}
    (h : Spoilt m t) :
    m.Fails t := by
  refine ⟨h.decode_eq, ?_, ?_⟩
  · rintro client link calls call rfl hreceives
    exact hreceives.reply_eq h.decode_eq
  · rintro client link calls rules onConflict batch index rfl hreceives
    obtain ⟨reason, hwords⟩ := hreceives.exists_words
    refine ⟨reason, hwords, ?_⟩
    rw [importBatch, Target.callEnd, hreceives.reply_eq h.decode_eq, hwords,
      ← TargetError.note_undecodable]
    exact BatchEnd.rejects_of_failed index batch .undecodable _

/-- The text of a message that can be read holds its members between braces, and its details in
their places.  Changes of the text that a record does not see keep what the message says, and texts
with a declared name twice, with a counter that is no number of 64 bits or with a name that is not
Unicode text make calls fail. -/
theorem decode_by_name
    (m : Message)
    {text : List Symbol}
    {members : List (Option String × Json)}
    {c : m.Content}
    (hobject : Json.ofSymbols? text = some (.obj members))
    (hdecode : m.decode text = some c) :
    (∃ t : ObjectText, t.text = text ∧ t.members.map (·.member) = members) ∧
      ∀ t : ObjectText, t.text = text →
        PlacesDetails t ∧
          (∀ t', Relation.ReflTransGen m.Edit t t' → m.decode t'.text = some c) ∧
            ∀ t', m.Spoilt t' → m.Fails t' := by
  refine ⟨Json.ofSymbols?_obj_iff.mp hobject, ?_⟩
  rintro t rfl
  refine ⟨placesDetails t, ?_, ?_⟩
  · exact fun t' hedits => decode_of_edits hedits hdecode
  · exact fun t' hspoilt => hspoilt.fails

/-- The text of a number without white space. -/
def numberText
    (i : Int) : ValueText :=
  .written (.int i) (.int i)

/-- The status of an account that was made. -/
def createdStatus : MemberText :=
  .written "status" (.written (.text "created") (.str "created"))

/-- The place of the only detail in a response that counts one imported account. -/
def onlyDetail : DetailPlace where
  margins := {}
  front := [.written "imported" (numberText 1)]
  back := []
  nameText := (Json.quote "details").map some
  reads := (MemberText.written "details" (numberText 0)).reads
  arrayMargins := {}
  before := []
  after := []

/-- A response to the import of one account. -/
def oneImported : ImportResponse :=
  { imported := 1, details := [{ status := "created" }] }

theorem decode_onlyDetail :
    Message.response.decode (onlyDetail.fill ⟨{}, [createdStatus]⟩).text = some oneImported := by
  rw [decode_text]
  rfl

/-- A member that no detail declares changes nothing, and a detail with two statuses makes the whole
response fail. -/
theorem decode_by_name_oneImported :
    Message.response.decode
        (onlyDetail.fill ⟨{}, [.written "attempt" (numberText 2), createdStatus]⟩).text =
      some oneImported ∧
    Message.response.Fails (onlyDetail.fill ⟨{}, [createdStatus, createdStatus]⟩) := by
  obtain ⟨-, hall⟩ := decode_by_name .response (ObjectText.reads _) decode_onlyDetail
  obtain ⟨-, hkeeps, hfails⟩ := hall _ rfl
  have hattempt : (MemberText.written "attempt" (numberText 2)).name = some "attempt" := rfl
  have hstatus : createdStatus.name = some "status" := rfl
  constructor
  · have hedit : Edit .detail ⟨{}, [createdStatus]⟩
        ⟨{}, [.written "attempt" (numberText 2), createdStatus]⟩ :=
      .insert {} {} [] [createdStatus] hattempt (by decide)
    exact hkeeps _ (.single (.inside onlyDetail hedit))
  · have hspoilt : Spoilt .detail ⟨{}, [createdStatus, createdStatus]⟩ :=
      .repeated {} [] [] [] (by decide) hstatus hstatus
    exact hfails _ (.inside onlyDetail hspoilt)

/-- The text of a count of six. -/
def countSix : ObjectText where
  margins := {}
  members := [.written "total" (numberText 6)]

/-- Half of a surrogate pair is a string of JSON and no name of a count, but a member with this name
is not skipped. -/
theorem count_refuses_nameless_member :
    ∃ member : MemberText,
      (∀ name ∈ Message.count.names, member.name ≠ some name) ∧
        countSix.text = Utf8.symbolsOfText "\x7b\"total\":6\x7d" ∧
        (⟨countSix.margins, countSix.members ++ [member]⟩ : ObjectText).text =
          Utf8.symbolsOfText "\x7b\"total\":6,\"\\ud800\":1\x7d" ∧
        Message.count.decode countSix.text = some 6 ∧
        Message.count.decode
          (⟨countSix.margins, countSix.members ++ [member]⟩ : ObjectText).text = none := by
  have hsix : Message.count.decode countSix.text = some 6 := by
    rw [decode_text]
    rfl
  refine ⟨.written none (numberText 1), nofun, by decide, by decide, hsix, ?_⟩
  exact (Spoilt.nameless {} [.written "total" (numberText 6)] [] rfl).decode_eq

end Message

end AccountMigration
