import AccountMigration.Proofs.Import.CleanTexts
import AccountMigration.Proofs.Uuid.Spelling

/-!
# The ids that are sent

When ids are to be kept, the entry of a record has an id exactly when the trimmed id of the record
is a spelling of a UUID.  What is sent is the canonical spelling of its number, so records have the
same id exactly when their ids denote the same number, however they spell it.  When ids are not to
be kept, none is sent.

* `Uuid.canonicalText`: the canonical spelling of a number.
* `SourceRecord.Denotes`: the number that the id of a record denotes.
* `SourceRecord.id_toEntry_eq_some_iff`: the id that is sent.
* `SourceRecord.sent_ids_are_canonical`: when an id is sent, what it looks like, and which records
  share it.
-/

namespace AccountMigration

open Text

/-- The canonical spelling of a number. -/
def Uuid.canonicalText
    (n : BitVec 128) : String :=
  String.ofList (canonicalForm n)

theorem Uuid.toText_eq_canonicalText
    (u : Uuid) :
    u.toText = canonicalText u.value := by
  rw [toText, toChars_eq_canonicalForm, canonicalText]

theorem Uuid.length_toText
    (u : Uuid) :
    u.toText.length = 36 := by
  rw [toText, String.length_ofList, u.length_toChars]

namespace SourceRecord

/-- The trimmed id of a record is a spelling of a number. -/
def Denotes
    (r : SourceRecord)
    (n : BitVec 128) : Prop :=
  ∃ u : Uuid, u.Spells (trim r.id).toList ∧ u.value = n

variable {rules : EntryRules} {r s : SourceRecord} {n : BitVec 128} {sent : String}

theorem Denotes.unique
    {k : BitVec 128}
    (hn : r.Denotes n)
    (hk : r.Denotes k) :
    n = k := by
  obtain ⟨u, hu, rfl⟩ := hn
  obtain ⟨w, hw, rfl⟩ := hk
  rw [hu.unique hw]

section Kept

variable (hids : rules.ids = .preserveUuid)
include hids

/-- An id that is sent is the canonical spelling of a UUID that the id of the record spells. -/
theorem exists_uuid_iff :
    (r.toEntry rules).id = some sent ↔
      ∃ u : Uuid, u.Spells (trim r.id).toList ∧ u.toText = sent := by
  have hid : (r.toEntry rules).id = (Uuid.ofText? (trim r.id)).map Uuid.toText := by
    simp only [toEntry, EntryRules.idOf, hids]
  rw [hid, Option.map_eq_some_iff]
  simp only [Uuid.ofText?_eq_some_iff]

theorem id_toEntry_eq_some_iff :
    (r.toEntry rules).id = some sent ↔ ∃ n, r.Denotes n ∧ sent = Uuid.canonicalText n := by
  rw [exists_uuid_iff hids]
  constructor
  · rintro ⟨u, hspells, rfl⟩
    exact ⟨u.value, ⟨u, hspells, rfl⟩, u.toText_eq_canonicalText⟩
  · rintro ⟨-, ⟨u, hspells, rfl⟩, rfl⟩
    exact ⟨u, hspells, u.toText_eq_canonicalText⟩

theorem isSome_id_toEntry_iff :
    (r.toEntry rules).id.isSome = true ↔ ∃ n, r.Denotes n := by
  rw [Option.isSome_iff_exists]
  simp only [id_toEntry_eq_some_iff hids]
  exact ⟨fun ⟨_, n, hn, _⟩ => ⟨n, hn⟩, fun ⟨n, hn⟩ => ⟨_, n, hn, rfl⟩⟩

/-- Records share an id exactly when their ids denote the same number. -/
theorem exists_shared_id_iff :
    (∃ sent, (r.toEntry rules).id = some sent ∧ (s.toEntry rules).id = some sent) ↔
      ∃ n, r.Denotes n ∧ s.Denotes n := by
  constructor
  · rintro ⟨sent, hr, hs⟩
    obtain ⟨u, hu, rfl⟩ := (exists_uuid_iff hids).mp hr
    obtain ⟨w, hw, hsame⟩ := (exists_uuid_iff hids).mp hs
    obtain rfl := Uuid.toText_injective hsame
    exact ⟨w.value, ⟨w, hu, rfl⟩, ⟨w, hw, rfl⟩⟩
  · rintro ⟨n, hr, hs⟩
    exact ⟨Uuid.canonicalText n, (id_toEntry_eq_some_iff hids).mpr ⟨n, hr, rfl⟩,
      (id_toEntry_eq_some_iff hids).mpr ⟨n, hs, rfl⟩⟩

/-- The shape of an id that is sent. -/
theorem length_and_case_of_id_toEntry
    (hsent : (r.toEntry rules).id = some sent) :
    sent.length = 36 ∧ lowerAscii sent = sent := by
  obtain ⟨u, -, rfl⟩ := (exists_uuid_iff hids).mp hsent
  exact ⟨u.length_toText, u.lowerAscii_toText⟩

end Kept

variable (rules r)

/-- When ids are to be kept, a record has an id in its entry exactly when its own id, trimmed, is a
spelling of a number of 128 bits.  The id that is sent is the canonical spelling of that number, 36
characters in lower case, and it is sent as it is for a record that has it.  Records share an id
exactly when their own ids denote the same number, and no record denotes two.  When ids are not to
be kept, no entry has one. -/
theorem sent_ids_are_canonical :
    (rules.ids = .preserveUuid →
      ((r.toEntry rules).id.isSome = true ↔ ∃ n, r.Denotes n) ∧
      (∀ n, r.Denotes n → (r.toEntry rules).id = some (Uuid.canonicalText n)) ∧
      (∀ sent, (r.toEntry rules).id = some sent →
        sent.length = 36 ∧ lowerAscii sent = sent ∧
        ∀ s : SourceRecord, s.id = sent → (s.toEntry rules).id = some sent) ∧
      (∀ s : SourceRecord,
        (∃ sent, (r.toEntry rules).id = some sent ∧ (s.toEntry rules).id = some sent) ↔
          ∃ n, r.Denotes n ∧ s.Denotes n) ∧
      ∀ n k, r.Denotes n → r.Denotes k → n = k) ∧
    (rules.ids = .generateNew → (r.toEntry rules).id = none) := by
  constructor
  · intro hids
    refine ⟨isSome_id_toEntry_iff hids, fun n hn => ?_, fun sent hsent => ?_,
      fun s => exists_shared_id_iff hids, fun n k => Denotes.unique⟩
    · exact (id_toEntry_eq_some_iff hids).mpr ⟨n, hn, rfl⟩
    · obtain ⟨hlength, hlower⟩ := length_and_case_of_id_toEntry hids hsent
      refine ⟨hlength, hlower, fun s hs => ?_⟩
      show rules.idOf s.id = some sent
      rw [hs]
      exact EntryRules.idOf_idOf hsent
  · intro hids
    simp only [toEntry, EntryRules.idOf, hids]

/-- A record with its id in braces, in upper case and with blanks around it. -/
def bracedRecord : SourceRecord :=
  { id := " \x7b6F9619FF-8B86-D011-B42D-00C04FC964FF\x7d\n" }

/-- A record with the same id behind the URN scheme. -/
def urnRecord : SourceRecord :=
  { id := "Urn:UUID:6f9619ff-8B86-d011-b42d-00c04fc964ff" }

/-- A record with a hyphen at the wrong place of its id. -/
def shiftedRecord : SourceRecord :=
  { id := "6f9619f-f8b86-d011-b42d-00c04fc964ff" }

/-- Two spellings of a number come to the same id, a near miss has none, and no id is sent when ids
are not to be kept. -/
theorem sent_ids_of_spellings :
    (bracedRecord.toEntry { ids := .preserveUuid }).id =
      some "6f9619ff-8b86-d011-b42d-00c04fc964ff" ∧
    (∃ n, bracedRecord.Denotes n ∧ urnRecord.Denotes n) ∧
    ({ id := "6f9619ff-8b86-d011-b42d-00c04fc964ff" : SourceRecord }.toEntry
      { ids := .preserveUuid }).id = some "6f9619ff-8b86-d011-b42d-00c04fc964ff" ∧
    (¬ ∃ n, shiftedRecord.Denotes n) ∧
    (bracedRecord.toEntry { ids := .generateNew }).id = none := by
  have hbraced : (bracedRecord.toEntry { ids := .preserveUuid }).id =
      some "6f9619ff-8b86-d011-b42d-00c04fc964ff" := by
    decide
  have hurn : (urnRecord.toEntry { ids := .preserveUuid }).id =
      some "6f9619ff-8b86-d011-b42d-00c04fc964ff" := by
    decide
  obtain ⟨-, -, hshape, hshared, -⟩ :=
    (sent_ids_are_canonical { ids := .preserveUuid } bracedRecord).1 rfl
  obtain ⟨hsome, -⟩ := (sent_ids_are_canonical { ids := .preserveUuid } shiftedRecord).1 rfl
  refine ⟨hbraced, (hshared urnRecord).mp ⟨_, hbraced, hurn⟩,
    (hshape _ hbraced).2.2 _ rfl, ?_, ?_⟩
  · rw [← hsome]
    decide
  · exact (sent_ids_are_canonical { ids := .generateNew } bracedRecord).2 rfl

end SourceRecord

end AccountMigration
