import AccountMigration.Proofs.Json.Members
import AccountMigration.Service.Wire

/-!
# The fields of the messages of the service

Each message of the service is a record whose fields may all be missing.  What the object of a
message is read as depends on the values of these fields only, where a missing field has the value
that its default is written with.

* `Message` and `Message.fields`: the messages, and the fields of each of them.
* `Message.ofJson?_obj`: an object is read field by field, with defaults for missing fields.
* `Message.ofJson?_obj_congr` and `Message.ofJson?_obj_eq_none`: objects that are read alike, and
  objects that cannot be read.
-/

namespace AccountMigration

open Json (areMembers valueOf)

/-- What a field of a message holds. -/
inductive FieldKind where
  | counter
  | text
  | optionalText
  | details
  deriving DecidableEq

namespace FieldKind

/-- The values of a field. -/
abbrev Value : FieldKind → Type
  | .counter => UInt64
  | .text => String
  | .optionalText => Option String
  | .details => List ImportDetail

/-- Read the value of a field. -/
def read? :
    (kind : FieldKind) → Json → Option kind.Value
  | .counter => Json.word?
  | .text => Json.text?
  | .optionalText => Json.nullable Json.text?
  | .details => Json.list? ImportDetail.ofJson?

/-- The value that is written for the default of a field. -/
def default : FieldKind → Json
  | .counter => .int 0
  | .text => .text ""
  | .optionalText => .null
  | .details => .arr []

end FieldKind

/-- The messages that are read from the service: the response to an import, one of its details, a
count, and an account. -/
inductive Message where
  | response
  | detail
  | count
  | user
  deriving DecidableEq

namespace Message

/-- The names of the fields of a message, and what they hold. -/
def fields : Message → List (String × FieldKind)
  | .response =>
      [("imported", .counter), ("skipped", .counter), ("updated", .counter), ("errors", .counter),
        ("details", .details)]
  | .detail => [("status", .text), ("user_id", .optionalText), ("reason", .optionalText)]
  | .count => [("total", .counter)]
  | .user => [("id", .optionalText), ("email", .optionalText), ("username", .optionalText)]

/-- The names of the fields of a message. -/
def names
    (m : Message) : List String :=
  m.fields.map Prod.fst

/-- What a message says. -/
abbrev Content : Message → Type
  | .response => ImportResponse
  | .detail => ImportDetail
  | .count => UInt64
  | .user => TargetUser

/-- Read a message. -/
def ofJson? :
    (m : Message) → Json → Option m.Content
  | .response => ImportResponse.ofJson?
  | .detail => ImportDetail.ofJson?
  | .count => readTotal?
  | .user => TargetUser.ofJson?

/-- A message from the values of its fields. -/
def assemble
    (field : (name : String) → (kind : FieldKind) → Option kind.Value) :
    (m : Message) → Option m.Content
  | .response => do
      let imported ← field "imported" .counter
      let skipped ← field "skipped" .counter
      let updated ← field "updated" .counter
      let errors ← field "errors" .counter
      let details ← field "details" .details
      return (⟨imported, skipped, updated, errors, details⟩ : ImportResponse)
  | .detail => do
      let status ← field "status" .text
      let userId ← field "user_id" .optionalText
      let reason ← field "reason" .optionalText
      return (⟨status, userId, reason⟩ : ImportDetail)
  | .count => field "total" .counter
  | .user => do
      let id ← field "id" .optionalText
      let email ← field "email" .optionalText
      let username ← field "username" .optionalText
      return (⟨id, email, username⟩ : TargetUser)

/-- What the fields of a message are read as among the members of an object. -/
def fieldIn
    (ms : List (Option String × Json))
    (name : String)
    (kind : FieldKind) : Option kind.Value :=
  kind.read? (valueOf ms name kind.default)

/-- An object is read field by field, and the default of a missing field is read in its place. -/
theorem ofJson?_obj
    (m : Message)
    (ms : List (Option String × Json)) :
    m.ofJson? (.obj ms) = if areMembers m.names ms then m.assemble (fieldIn ms) else none := by
  have hcounter : ∀ name, (Json.memberField ms name).orElse 0 Json.word? =
      fieldIn ms name .counter :=
    fun _ => Json.orElse_memberField rfl
  have htext : ∀ name, (Json.memberField ms name).orElse "" Json.text? = fieldIn ms name .text :=
    fun _ => Json.orElse_memberField rfl
  have hoptional : ∀ name, (Json.memberField ms name).orElse none (Json.nullable Json.text?) =
      fieldIn ms name .optionalText :=
    fun _ => Json.orElse_memberField rfl
  have hdetails : ∀ name,
      (Json.memberField ms name).orElse [] (Json.list? ImportDetail.ofJson?) =
        fieldIn ms name .details :=
    fun _ => Json.orElse_memberField rfl
  cases m
  all_goals
    simp only [ofJson?, ImportResponse.ofJson?, ImportDetail.ofJson?, readTotal?,
      TargetUser.ofJson?, Json.fields?, names, fields, List.map_cons, List.map_nil]
    split
    · simp only [Option.bind_eq_bind, Option.bind_some, hcounter, htext, hoptional, hdetails]
      rfl
    · rfl

variable {m : Message} {ms ms' : List (Option String × Json)}

/-- A message depends on its fields only. -/
theorem assemble_congr
    {field field' : (name : String) → (kind : FieldKind) → Option kind.Value}
    (h : ∀ f ∈ m.fields, field f.1 f.2 = field' f.1 f.2) :
    m.assemble field = m.assemble field' := by
  cases m
  all_goals
    simp only [fields, List.forall_mem_cons] at h
  case count => exact h.1
  all_goals
    simp only [assemble, h]

/-- A message with a field that cannot be read cannot be read. -/
theorem assemble_eq_none
    {field : (name : String) → (kind : FieldKind) → Option kind.Value}
    {f : String × FieldKind}
    (hf : f ∈ m.fields)
    (hnone : field f.1 f.2 = none) :
    m.assemble field = none := by
  cases m
  all_goals
    simp only [fields, List.mem_cons, List.not_mem_nil, or_false] at hf
  case response =>
    rcases hf with rfl | rfl | rfl | rfl | rfl <;> simp [assemble, hnone]
  case detail =>
    rcases hf with rfl | rfl | rfl <;> simp [assemble, hnone]
  case count =>
    subst hf
    exact hnone
  case user =>
    rcases hf with rfl | rfl | rfl <;> simp [assemble, hnone]

theorem names_nodup
    (m : Message) :
    m.names.Nodup := by
  cases m <;> decide

/-- The fields of a message with what is written for their defaults. -/
def defaults
    (m : Message) : List (String × Json) :=
  m.fields.map fun f => (f.1, f.2.default)

theorem map_fst_defaults
    (m : Message) :
    m.defaults.map Prod.fst = m.names := by
  rw [defaults, List.map_map]
  rfl

/-- An object that can be read has members that fields are read from, and each field can be read. -/
theorem of_ofJson?_obj
    {c : m.Content}
    (h : m.ofJson? (.obj ms) = some c) :
    areMembers m.names ms = true ∧ ∀ f ∈ m.fields, ∃ value, fieldIn ms f.1 f.2 = some value := by
  rw [ofJson?_obj] at h
  split at h
  case isFalse => cases h
  case isTrue hms =>
    refine ⟨hms, fun f hf => Option.ne_none_iff_exists'.mp fun hnone => ?_⟩
    rw [assemble_eq_none hf hnone] at h
    cases h

/-- Objects with the same fields are read alike. -/
theorem ofJson?_obj_congr
    (hms : areMembers m.names ms = true)
    (hms' : areMembers m.names ms' = true)
    (hfields : ∀ f ∈ m.fields, fieldIn ms' f.1 f.2 = fieldIn ms f.1 f.2) :
    m.ofJson? (.obj ms') = m.ofJson? (.obj ms) := by
  rw [ofJson?_obj, ofJson?_obj, if_pos hms, if_pos hms', assemble_congr hfields]

theorem ofJson?_obj_of_sameFields
    (hms : areMembers m.names ms = true)
    (h : Json.SameFields m.defaults ms ms') :
    m.ofJson? (.obj ms') = m.ofJson? (.obj ms) := by
  have hms' := h.areMembers
  rw [map_fst_defaults] at hms'
  refine ofJson?_obj_congr hms hms' fun f hf => ?_
  have hvalue : valueOf ms' f.1 f.2.default = valueOf ms f.1 f.2.default :=
    h.value (f.1, f.2.default) (List.mem_map_of_mem hf)
  rw [fieldIn, fieldIn, hvalue]

end Message

end AccountMigration
