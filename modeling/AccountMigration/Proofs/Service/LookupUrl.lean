import AccountMigration.Proofs.Url.Percent
import AccountMigration.Proofs.Url.Segments
import AccountMigration.Service.Client

/-!
# Where accounts are looked up

An account is looked up at one more segment below the accounts, which reads as its id.  This holds
for every id that can be a segment of its own.  A dot segment names no account but their list or
a resource above it, and tabs and line breaks inside an id get lost.  The id `import` has the URL to
which accounts are posted.

* `Client.AsksFor` and `Client.asksFor_iff`: when a lookup asks for the account of its id.
* `Client.lookup_names_account`: such lookups have URLs of their own, none of which is that of a
  count, and only one of which is that of an import.
* `Client.dot_lists_accounts`: an id that is a dot asks for the list of all accounts.
-/

namespace AccountMigration

open Text

namespace Client

/-- The lookup of an id asks for one resource below the accounts, whose segment reads as the
id. -/
def AsksFor
    (client : Client)
    (id : String) : Prop :=
  ∃ request, client.request? (.findUser id) = some request ∧
    ∃ segment, segment ≠ "" ∧
      request.url.path = Url.withoutLastEmpty client.base.path ++ usersPath ++ [segment] ∧
      Percent.decode segment.toList = Utf8.bytes id

variable (client : Client)

theorem isPlain_usersPath
    (special : Bool) :
    ∀ segment ∈ usersPath, Url.IsPlain special segment := by
  cases special <;> decide

theorem isPlain_applicationsPath
    (special : Bool) :
    ∀ segment ∈ applicationsPath, Url.IsPlain special segment := by
  cases special <;> decide

theorem path_usersRequest :
    client.usersRequest.url.path = client.base.room ++ usersPath := by
  exact Url.path_appendAll_of_isPlain _ (by decide) (isPlain_usersPath _)

/-- The path of a lookup is that of the accounts with the id appended. -/
theorem path_lookupRequest
    (id : String) :
    (client.lookupRequest id).url.path =
      Url.appendSegment client.base.isSpecial (client.base.room ++ usersPath) id := by
  rw [← path_usersRequest]
  simp [lookupRequest, usersRequest, getCount, get, Url.addQuery, Url.appendAll,
    List.foldl_append]

theorem withoutRoot_room_usersPath :
    Url.withoutRoot (client.base.room ++ usersPath) = client.base.room ++ usersPath := by
  exact Url.withoutRoot_of_one_lt (by simp [usersPath])

theorem path_lookupRequest_of_isSegment
    {id : String}
    (hid : Url.IsSegment id) :
    (client.lookupRequest id).url.path = client.base.room ++ usersPath ++
      [String.ofList (Percent.encode (Percent.inSegmentSet client.base.isSpecial) id.toList)] := by
  rw [path_lookupRequest, Url.appendSegment_of_isSegment _ _ hid, withoutRoot_room_usersPath]

/-- Lookups with one URL have one segment behind the accounts. -/
theorem url_lookupRequest_injective
    {id other : String}
    (hother : Url.IsSegment other)
    (hid : Url.IsSegment id)
    (htext : (client.lookupRequest other).url.toText = (client.lookupRequest id).url.toText) :
    Percent.encode (Percent.inSegmentSet client.base.isSpecial) other.toList =
      Percent.encode (Percent.inSegmentSet client.base.isSpecial) id.toList := by
  have hurl : ∀ name, Url.IsSegment name → (client.lookupRequest name).url =
      { client.base with
        path := client.base.room ++ usersPath ++
          [String.ofList
            (Percent.encode (Percent.inSegmentSet client.base.isSpecial) name.toList)] } := by
    intro name hname
    rw [← client.path_lookupRequest_of_isSegment hname]
    rfl
  rw [hurl _ hother, hurl _ hid] at htext
  refine String.ofList_injective (Url.toText_concat_injective client.base ?_ htext)
  simp [usersPath]

theorem inSegmentSet_percent
    (special : Bool) :
    Percent.inSegmentSet special '%' = true := by
  cases special <;> decide

/-- A lookup that puts one more segment behind the accounts, which reads as the id, has an id that
can be a segment. -/
theorem isSegment_of_path
    {id segment : String}
    (hsegment : segment ≠ "")
    (hpath : (client.lookupRequest id).url.path = client.base.room ++ usersPath ++ [segment])
    (hdecode : Percent.decode segment.toList = Utf8.bytes id) :
    Url.IsSegment id := by
  rw [path_lookupRequest] at hpath
  rcases Url.appendSegment_cases client.base.isSpecial (client.base.room ++ usersPath) id with
    ⟨-, happend⟩ | ⟨-, happend⟩ | ⟨-, happend⟩ | ⟨hsingle, hdouble, happend⟩
  · have hlength := congrArg List.length (happend.symm.trans hpath)
    simp at hlength
  · rw [happend, withoutRoot_room_usersPath, List.append_cancel_left_eq] at hpath
    simp [hsegment.symm] at hpath
  · rw [withoutRoot_room_usersPath] at happend
    have hlength := congrArg List.length (happend.symm.trans hpath)
    simp [usersPath] at hlength
  · rw [happend, withoutRoot_room_usersPath, List.append_cancel_left_eq] at hpath
    obtain rfl : _ = segment := by simpa using hpath
    rw [String.toList_ofList, Percent.decode_encode (inSegmentSet_percent _)] at hdecode
    have hkept : String.ofList (Url.keptChars id) = id := by
      refine Utf8.bytes_injective ?_
      rw [← hdecode, Utf8.bytes, String.toList_ofList]
    refine ⟨hsingle, hdouble, (Url.keptChars_eq_iff id).mp ?_⟩
    rw [← String.toList_ofList (l := Url.keptChars id), hkept]

/-- A base path of two slashes gives both empty segments up, the one that is left being the root. -/
theorem path_lookupRequest_ne_of_two_slashes
    (hbase : client.base.path = ["", ""])
    (id segment : String) :
    (client.lookupRequest id).url.path ≠
      Url.withoutLastEmpty client.base.path ++ usersPath ++ [segment] := by
  intro hpath
  have hroom : client.base.room = [] := by
    simp [Url.room, hbase, Url.withoutTrailingEmpty, Url.withoutRoot]
  have hlength := Url.length_appendSegment_le client.base.isSpecial
    (client.base.room ++ usersPath) id
  rw [← path_lookupRequest, hpath, hroom, hbase] at hlength
  simp [Url.withoutLastEmpty, usersPath] at hlength

theorem encode_ne_empty
    {id : String}
    (hid : isBlankText id = false) :
    String.ofList (Percent.encode (Percent.inSegmentSet client.base.isSpecial) id.toList) ≠ "" := by
  intro hempty
  have hnil : id.toList = [] := by
    refine Percent.encode_injective (inSegmentSet_percent client.base.isSpecial) ?_
    simpa [Percent.encode] using congrArg String.toList hempty
  simp [isBlankText, hnil] at hid

/-- A lookup asks for the account of its id when the id is not blank and can be a segment, and the
base path makes room by one empty segment at most. -/
theorem asksFor_iff
    (id : String) :
    client.AsksFor id ↔
      isBlankText id = false ∧ client.base.path ≠ ["", ""] ∧ Url.IsSegment id := by
  constructor
  · rintro ⟨request, hrequest, segment, hsegment, hpath, hdecode⟩
    have hblank : isBlankText id = false := by
      cases hid : isBlankText id with
      | false => rfl
      | true => simp [request?, hid] at hrequest
    obtain rfl : client.lookupRequest id = request := by simpa [request?, hblank] using hrequest
    have hbase : client.base.path ≠ ["", ""] := fun h =>
      client.path_lookupRequest_ne_of_two_slashes h id segment hpath
    rw [← (Url.room_eq_iff client.base).mpr hbase] at hpath
    exact ⟨hblank, hbase, client.isSegment_of_path hsegment hpath hdecode⟩
  · rintro ⟨hblank, hbase, hid⟩
    refine ⟨client.lookupRequest id, by simp [request?, hblank], _, client.encode_ne_empty hblank,
      ?_, ?_⟩
    · rw [path_lookupRequest_of_isSegment client hid, (Url.room_eq_iff client.base).mpr hbase]
    · rw [String.toList_ofList, Percent.decode_encode (inSegmentSet_percent _)]
      rfl

/-- No id of an application leads from the applications to the accounts. -/
theorem exists_appendSegment_applicationsPath
    (id : String) :
    ∃ third rest, third ≠ "users" ∧
      Url.appendSegment client.base.isSpecial (client.base.room ++ applicationsPath) id =
        client.base.room ++ "api" :: "admin" :: third :: rest := by
  have happlications : "applications" ≠ "users" := by decide
  have hroot : Url.withoutRoot (client.base.room ++ applicationsPath) =
      client.base.room ++ applicationsPath :=
    Url.withoutRoot_of_one_lt (by simp [applicationsPath])
  rcases Url.appendSegment_cases client.base.isSpecial (client.base.room ++ applicationsPath) id
    with ⟨-, h⟩ | ⟨-, h⟩ | ⟨-, h⟩ | ⟨-, -, h⟩
  · exact ⟨"applications", [], happlications, h⟩
  · refine ⟨"applications", [""], happlications, ?_⟩
    rw [h, hroot]
    simp [applicationsPath]
  · refine ⟨"", [], by decide, ?_⟩
    rw [h, hroot]
    simp [applicationsPath]
  · exact ⟨"applications", [_], happlications, by rw [h, hroot]; simp [applicationsPath]; rfl⟩

theorem path_profilesRequest :
    ∃ third rest, third ≠ "users" ∧
      client.profilesRequest.url.path = client.base.room ++ "api" :: "admin" :: third :: rest := by
  have husers : Url.IsPlain client.base.isSpecial "users" := by
    cases client.base.isSpecial <;> decide
  obtain ⟨third, rest, hthird, happend⟩ :=
    client.exists_appendSegment_applicationsPath client.applicationId
  have hpath : client.profilesRequest.url.path = Url.appendSegment client.base.isSpecial
      (Url.appendSegment client.base.isSpecial (client.base.room ++ applicationsPath)
        client.applicationId) "users" := by
    rw [← Url.path_appendAll_of_isPlain _ (by decide) (isPlain_applicationsPath _)]
    simp [profilesRequest, getCount, get, Url.addQuery, Url.appendAll, List.foldl_append]
  refine ⟨third, rest ++ ["users"], hthird, ?_⟩
  rw [hpath, happend, Url.appendSegment_of_isPlain husers,
    Url.withoutRoot_of_one_lt (by simp; omega)]
  simp

/-- A lookup asks for the account of its id exactly when the id can be a segment.  The URLs of
such ids differ as texts.  None of them belongs to a count, and only that of the id `import` belongs
to an import, whose request still differs from the lookup by its method. -/
theorem lookup_names_account
    (client : Client)
    (id : String) :
    (client.AsksFor id ↔
      isBlankText id = false ∧ client.base.path ≠ ["", ""] ∧ Url.IsSegment id) ∧
    (Url.IsSegment id →
      (∀ other, Url.IsSegment other →
        (client.lookupRequest other).url.toText = (client.lookupRequest id).url.toText →
        other = id) ∧
      (client.lookupRequest id).url.path ≠ client.usersRequest.url.path ∧
      (client.lookupRequest id).url.path ≠ client.profilesRequest.url.path ∧
      ∀ request,
        ((client.lookupRequest id).url.toText = (client.importRequest request).url.toText ↔
          id = "import") ∧
        client.lookupRequest id ≠ client.importRequest request) := by
  have hinjective : ∀ {id other : String}, Url.IsSegment id → Url.IsSegment other →
      (client.lookupRequest other).url.toText = (client.lookupRequest id).url.toText →
        other = id := by
    intro id other hid hother htext
    have hsame := client.url_lookupRequest_injective hother hid htext
    exact String.ext (Percent.encode_injective (inSegmentSet_percent _) hsame)
  refine ⟨client.asksFor_iff id, fun hid =>
    ⟨fun other hother htext => hinjective hid hother htext, ?_, ?_, ?_⟩⟩
  · rw [client.path_lookupRequest_of_isSegment hid, path_usersRequest]
    simp
  · obtain ⟨third, rest, hthird, hprofiles⟩ := client.path_profilesRequest
    rw [client.path_lookupRequest_of_isSegment hid, hprofiles, List.append_assoc, ne_eq,
      List.append_cancel_left_eq]
    simp [usersPath, hthird.symm]
  · intro request
    have himport : (client.importRequest request).url = (client.lookupRequest "import").url := rfl
    constructor
    · rw [himport]
      constructor
      · exact hinjective (by decide) hid
      · rintro rfl
        rfl
    · intro h
      cases congrArg HttpRequest.method h

/-- The client of a service on this machine. -/
def localClient : Client where
  base := ⟨"http", none, some (.domain "localhost"), some 3000, [""], none, none⟩
  apiKey := ""
  applicationId := ""

/-- An id with a slash, a percent sign and a character outside ASCII. -/
theorem lookup_names_team_member :
    Url.IsSegment "team/zoë%2e" ∧ localClient.AsksFor "team/zoë%2e" ∧
    (localClient.lookupRequest "team/zoë%2e").url.toText =
      "http://localhost:3000/api/admin/users/team%2Fzo%C3%AB%252e" := by
  have hid : Url.IsSegment "team/zoë%2e" := by decide
  have hasks := (lookup_names_account localClient "team/zoë%2e").1.mpr
    ⟨by decide, by decide, hid⟩
  exact ⟨hid, hasks, by decide +kernel⟩

/-- An id that is a dot asks for the list of all accounts, which is taken for an account when it
comes back; two ids that differ in a tab are looked up at one URL, and one id at the URL of
imports. -/
theorem dot_lists_accounts :
    Client.ofAddress {} = .ok localClient ∧
    localClient.base.isHttp = true ∧
    isBlankText "." = false ∧
    ¬ localClient.AsksFor "." ∧
    (localClient.lookupRequest ".").url.path = localClient.usersRequest.url.path ∧
    Reply.ofLookup localClient.libraries
      { status := 200, body := Utf8.bytes "\x7b\"users\":[],\"total\":0\x7d" } =
        .answered (some {}) ∧
    (localClient.lookupRequest "a\tb").url = (localClient.lookupRequest "ab").url ∧
    (localClient.lookupRequest "import").url = (localClient.importRequest ⟨[], .skip⟩).url := by
  refine ⟨rfl, by decide, by decide, ?_, by decide +kernel, ?_, by decide +kernel, rfl⟩
  · rw [asksFor_iff]
    decide
  · have hread : ((Json.ofBytes? (Utf8.bytes "\x7b\"users\":[],\"total\":0\x7d")).bind
        fun v => (TargetUser.ofJson? v).map some) = some (some {}) := by decide +kernel
    have hfound : (200 : Nat) ≠ Status.notFound := by decide
    have hsuccess : Status.isSuccess 200 = true := by decide
    rw [Reply.ofLookup, if_neg hfound, Reply.ofAnswer, if_pos hsuccess]
    simp only [hread]

end Client
end AccountMigration
