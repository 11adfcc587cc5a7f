import AccountMigration.Import.Batch
import AccountMigration.Proofs.Json.Records
import AccountMigration.Proofs.Time.RoundTrip
import AccountMigration.Service.Client

/-!
# Written forms

What is written for a record of the source, for a pair that is spot-checked and for a message of the
service decodes to the same value.  An entry leaves out what is absent; the reader of an entry takes
a missing field for an absent one, so nothing is lost.

* `ImportEntry.readsBack`: an entry reads back although members of it are left out.
* `ImportEntry.leaves_out`: the members that an entry leaves out.
* `ImportRequest.users?`: the entries in the body of a request.
* `written_forms_decode`: every value decodes from its texts, and a body from its texts to the
  entries that were built.
-/

namespace AccountMigration

open Json

theorem Timestamp.readsBack :
    ReadsBack Timestamp.toJson Timestamp.ofJson? where
  exact t := .str (some t.toText)
  read_write t := by
    rw [Timestamp.ofJson?, Timestamp.toJson, ReadsBack.text.read_write, Option.bind_some,
      t.ofText?_toText]

/-! ## Records of the source -/

theorem SourceRecord.readsBack :
    ReadsBack SourceRecord.toJson SourceRecord.ofJson? where
  exact r := exact_record (by
    simp [ReadsBack.text.exact, ReadsBack.bool.exact, (ReadsBack.text.ofOption rfl).exact,
      (Timestamp.readsBack.ofOption rfl).exact, ReadsBack.int32.list.exact])
  read_write r := by
    rw [SourceRecord.toJson, SourceRecord.ofJson?, fields?_record (by simp)]
    simp [ReadsBack.text.read_write, ReadsBack.bool.read_write,
      (ReadsBack.text.ofOption rfl).read_write, (Timestamp.readsBack.ofOption rfl).read_write,
      ReadsBack.int32.list.read_write]

theorem SampledUser.readsBack :
    ReadsBack SampledUser.toJson SampledUser.ofJson? where
  exact u := exact_record (by
    simp [ReadsBack.text.exact, (ReadsBack.text.ofOption rfl).exact])
  read_write u := by
    rw [SampledUser.toJson, SampledUser.ofJson?, fields?_record (by simp)]
    simp [ReadsBack.text.read_write, (ReadsBack.text.ofOption rfl).read_write]

/-! ## Entries -/

namespace ImportEntry

section Members

variable (name : String) (s : Option String) (roles : List String)

theorem names_textMember :
    ((textMember name s).map Prod.fst).Sublist [name] := by
  cases s <;> simp [textMember]

theorem names_rolesMember :
    ((rolesMember roles).map Prod.fst).Sublist ["app_roles"] := by
  cases roles <;> simp [rolesMember]

theorem exact_textMember :
    ∀ m ∈ textMember name s, m.2.Exact := by
  cases s <;> simp [textMember, ReadsBack.text.exact]

theorem exact_rolesMember :
    ∀ m ∈ rolesMember roles, m.2.Exact := by
  cases roles <;> simp [rolesMember, ReadsBack.text.list.exact]

/-- The member of a text that may be left out, with others behind it. -/
theorem fieldOf_textMember_append
    (ms : List (String × Json))
    (key : String) :
    fieldOf (textMember name s ++ ms) key =
      if key = name then s.elim (fieldOf ms key) (Field.given ∘ Json.text)
      else fieldOf ms key := by
  cases s with
  | none => simp [textMember]
  | some s => simp [textMember]

/-- A text that is left out is read as an absent one. -/
theorem optional_elim_missing :
    (s.elim Field.missing (Field.given ∘ Json.text)).optional text? = some s := by
  cases s with
  | none => rfl
  | some s => rfl

/-- Roles that are left out are read as no roles. -/
theorem orElse_rolesMember :
    (fieldOf (rolesMember roles) "app_roles").orElse [] (list? text?) = some roles := by
  cases roles with
  | nil => rfl
  | cons s rest => simp [rolesMember, ReadsBack.text.list.read_write]

theorem fieldOf_rolesMember
    {key : String}
    (hkey : key ≠ "app_roles") :
    fieldOf (rolesMember roles) key = .missing := by
  cases roles with
  | nil => rfl
  | cons s rest => simp [rolesMember, hkey]

end Members

/-- The members of an entry. -/
def members
    (e : ImportEntry) : List (String × Json) :=
  textMember "id" e.id
    ++ textMember "email" e.email
    ++ textMember "username" e.username
    ++ textMember "phone" e.phone
    ++ textMember "full_name" e.fullName
    ++ textMember "password_hash_import" e.passwordHashImport
    ++ [("is_active", .bool e.isActive),
      ("email_verified", .bool e.emailVerified),
      ("phone_verified", .bool e.phoneVerified),
      ("skip_email_verification", .bool e.skipEmailVerification)]
    ++ rolesMember e.appRoles

/-- No member of an entry is written twice. -/
theorem fields?_toJson
    (e : ImportEntry) :
    e.toJson.fields? fieldNames = some (fieldOf e.members) := by
  have hnames := ((((((((names_textMember "id" e.id).append
    (names_textMember "email" e.email)).append
    (names_textMember "username" e.username)).append
    (names_textMember "phone" e.phone)).append
    (names_textMember "full_name" e.fullName)).append
    (names_textMember "password_hash_import" e.passwordHashImport)).append
    (.refl ["is_active", "email_verified", "phone_verified", "skip_email_verification"])).append
    (names_rolesMember e.appRoles))
  have hnodup : fieldNames.Nodup := by decide
  exact fields?_record (by simpa [members] using hnodup.sublist hnames)

/-- An entry reads back, although what is absent in it is left out. -/
theorem readsBack :
    ReadsBack toJson ofJson? where
  exact e := by
    refine exact_record ?_
    simp only [List.forall_mem_append, and_assoc]
    refine ⟨exact_textMember _ _, exact_textMember _ _, exact_textMember _ _,
      exact_textMember _ _, exact_textMember _ _, exact_textMember _ _, ?_, exact_rolesMember _⟩
    simp [ReadsBack.bool.exact]
  read_write e := by
    rw [ofJson?, fields?_toJson]
    simp [members, fieldOf_textMember_append, fieldOf_rolesMember, optional_elim_missing,
      orElse_rolesMember, ReadsBack.bool.read_write]

theorem elim_eq_missing_iff
    (s : Option String) :
    s.elim Field.missing (Field.given ∘ Json.text) = .missing ↔ s = none := by
  cases s <;> simp

theorem fieldOf_rolesMember_eq_missing_iff
    (roles : List String) :
    fieldOf (rolesMember roles) "app_roles" = .missing ↔ roles = [] := by
  cases roles <;> simp [rolesMember]

/-- An entry leaves out the absent texts, and the roles when there are none, and nothing else. -/
theorem leaves_out
    (e : ImportEntry) :
    ∃ field, e.toJson.fields? fieldNames = some field ∧
      (field "id" = .missing ↔ e.id = none) ∧
      (field "email" = .missing ↔ e.email = none) ∧
      (field "username" = .missing ↔ e.username = none) ∧
      (field "phone" = .missing ↔ e.phone = none) ∧
      (field "full_name" = .missing ↔ e.fullName = none) ∧
      (field "password_hash_import" = .missing ↔ e.passwordHashImport = none) ∧
      (field "app_roles" = .missing ↔ e.appRoles = []) ∧
      ∀ key ∈ ["is_active", "email_verified", "phone_verified", "skip_email_verification"],
        field key ≠ .missing := by
  refine ⟨_, e.fields?_toJson, ?_⟩
  simp [members, fieldOf_textMember_append, fieldOf_rolesMember, elim_eq_missing_iff,
    fieldOf_rolesMember_eq_missing_iff]

end ImportEntry

/-! ## Messages of the service -/

theorem ImportDetail.readsBack :
    ReadsBack ImportDetail.toJson ImportDetail.ofJson? where
  exact d := exact_record (by
    simp [ReadsBack.text.exact, (ReadsBack.text.ofOption rfl).exact])
  read_write d := by
    rw [ImportDetail.toJson, ImportDetail.ofJson?, fields?_record (by simp)]
    simp [ReadsBack.text.read_write, (ReadsBack.text.ofOption rfl).read_write]

theorem ImportResponse.readsBack :
    ReadsBack ImportResponse.toJson ImportResponse.ofJson? where
  exact r := exact_record (by
    simp [ReadsBack.word.exact, ImportDetail.readsBack.list.exact])
  read_write r := by
    rw [ImportResponse.toJson, ImportResponse.ofJson?, fields?_record (by simp)]
    simp [ReadsBack.word.read_write, ImportDetail.readsBack.list.read_write]

theorem TargetUser.readsBack :
    ReadsBack TargetUser.toJson TargetUser.ofJson? where
  exact u := exact_record (by
    simp [(ReadsBack.text.ofOption rfl).exact])
  read_write u := by
    rw [TargetUser.toJson, TargetUser.ofJson?, fields?_record (by simp)]
    simp [(ReadsBack.text.ofOption rfl).read_write]

namespace ImportRequest

/-- The entries in the body of a request. -/
def users?
    (body : Json) : Option (List ImportEntry) := do
  let field ← body.fields? ["users", "on_conflict"]
  (field "users").required (list? ImportEntry.ofJson?)

theorem decodes_users
    (request : ImportRequest) :
    request.toJson.Decodes users? request.users := by
  have hexact : request.toJson.Exact := exact_record (by
    simp [ImportEntry.readsBack.list.exact, ReadsBack.text.exact])
  refine hexact.decodes ?_
  rw [toJson, users?, fields?_record (by simp)]
  simp [ImportEntry.readsBack.list.read_write]

end ImportRequest

/-- Every value decodes from its texts, and the body of a bulk import decodes to the entries of its
records. -/
theorem written_forms_decode :
    (∀ r : SourceRecord, r.toJson.Decodes SourceRecord.ofJson? r) ∧
      (∀ u : SampledUser, u.toJson.Decodes SampledUser.ofJson? u) ∧
      (∀ e : ImportEntry, e.toJson.Decodes ImportEntry.ofJson? e) ∧
      (∀ d : ImportDetail, d.toJson.Decodes ImportDetail.ofJson? d) ∧
      (∀ r : ImportResponse, r.toJson.Decodes ImportResponse.ofJson? r) ∧
      (∀ u : TargetUser, u.toJson.Decodes TargetUser.ofJson? u) ∧
      ∀ (client : Client) (rules : EntryRules) (onConflict : ConflictStrategy)
        (records : List SourceRecord),
        ∃ body, (client.importRequest (requestOf rules onConflict records)).body = some body ∧
          body.Decodes ImportRequest.users? (records.map (SourceRecord.toEntry rules)) := by
  refine ⟨SourceRecord.readsBack.decodes, SampledUser.readsBack.decodes,
    ImportEntry.readsBack.decodes, ImportDetail.readsBack.decodes,
    ImportResponse.readsBack.decodes, TargetUser.readsBack.decodes, ?_⟩
  intro client rules onConflict records
  exact ⟨_, rfl, (requestOf rules onConflict records).decodes_users⟩

end AccountMigration
