import AccountMigration.Proofs.Text.AsciiCase
import Mathlib.Logic.Relation

/-!
# Keys in normal form

The key of a record is a normal form of one of its fields: the first field of the selector that is
not blank, trimmed and in lower case.  A key that is put into that field is its own key, and the
key does not depend on how the field is typed.

* `KeyField` and `DedupKey.fields`: the fields of a selector in order of preference.
* `IsMadeOf`: the field that a key is made of, and what is done to its text.
* `Retyped`: what may be changed in a field.
* `normalized_eq_some_iff`, `normalized_of_key` and `normalized_of_retyped`: the three facts for a
  single field.
* `keys_are_normal_forms`: all of it for records and selectors.
-/

namespace AccountMigration

open Text

/-- The fields of a record that keys are made of. -/
inductive KeyField where
  | email
  | phone
  | username
  deriving DecidableEq

/-- The fields of a selector, the preferred one first. -/
def DedupKey.fields : DedupKey → List KeyField
  | .email => [.email]
  | .phone => [.phone]
  | .username => [.username]
  | .emailOrPhone => [.email, .phone]
  | .usernameOrEmail => [.username, .email]

namespace SourceRecord

/-- What stands in a field. -/
def text
    (r : SourceRecord) : KeyField → Option String
  | .email => r.email
  | .phone => r.phone
  | .username => r.username

/-- The record with something else in a field. -/
def withText
    (r : SourceRecord)
    (value : Option String) : KeyField → SourceRecord
  | .email => { r with email := value }
  | .phone => { r with phone := value }
  | .username => { r with username := value }

@[simp] theorem text_withText_self
    (r : SourceRecord)
    (value : Option String)
    (f : KeyField) :
    (r.withText value f).text f = value := by
  cases f <;> rfl

theorem text_withText_of_ne
    (r : SourceRecord)
    (value : Option String)
    {f g : KeyField}
    (hne : g ≠ f) :
    (r.withText value f).text g = r.text g := by
  cases f <;> cases g <;> simp_all [withText, text]

end SourceRecord

/-- The field is absent or holds blanks only. -/
def IsBlankField
    (field : Option String) : Prop :=
  ∀ text ∈ field, isBlankText text = true

/-- The key is made of the field: the fields that are preferred to it are blank, and the key is
the lower case of its trimmed text. -/
structure IsMadeOf
    (selector : DedupKey)
    (r : SourceRecord)
    (f : KeyField)
    (key : String) : Prop where
  preferred : ∃ before after,
    selector.fields = before ++ f :: after ∧ ∀ g ∈ before, IsBlankField (r.text g)
  lowers : ∃ text,
    r.text f = some text ∧ isBlankText text = false ∧
      LowersTo [] (trim text).toList key.toList

/-- Ways to type a field that a key does not depend on: with other blanks around the text, with
ASCII letters in another case, and blank or not at all. -/
inductive Retyped : Option String → Option String → Prop
  | padded
      (text : String)
      {front back : String}
      (hfront : isBlankText front = true)
      (hback : isBlankText back = true) :
      Retyped (some text) (some (front ++ text ++ back))
  | recased
      {text other : String}
      (hsame : lowerAscii text = lowerAscii other) :
      Retyped (some text) (some other)
  | emptied
      {text : String}
      (hblank : isBlankText text = true) :
      Retyped (some text) none

section Field

variable {field : Option String} {key : String}

theorem normalized_eq_none_iff_blank :
    normalized field = none ↔ IsBlankField field := by
  rw [normalized_eq_none_iff, present?_eq_none_iff]
  rfl

/-- A field that is not blank gives the lower case of its trimmed text. -/
theorem normalized_eq_some_iff :
    normalized field = some key ↔
      ∃ text, field = some text ∧ isBlankText text = false ∧ lowercase (trim text) = key := by
  cases field with
  | none =>
      simp
  | some s =>
      by_cases hs : isBlankText s = true
      · simp [normalized, present?, (trim_eq_empty_iff s).mpr hs, hs]
      · have hne : trim s ≠ "" := fun h => hs ((trim_eq_empty_iff s).mp h)
        simp [normalized, present?, hne, hs]

/-- A key is neither empty nor has it blanks at its ends. -/
theorem trimmed_of_normalized
    (hkey : normalized field = some key) :
    key ≠ "" ∧ HasNoBlankEnds key.toList := by
  obtain ⟨text, -, htext, rfl⟩ := normalized_eq_some_iff.mp hkey
  refine ⟨fun hempty => ?_, hasNoBlankEnds_lowercase (hasNoBlankEnds_trim text)⟩
  rw [← String.toList_eq_nil_iff, (lowersTo_lowercase (trim text)).eq_nil_iff,
    String.toList_eq_nil_iff, trim_eq_empty_iff, htext] at hempty
  cases hempty

/-- The key of a field does not depend on the case of ASCII letters. -/
theorem normalized_lowerAscii
    (text : String) :
    normalized (some (lowerAscii text)) = normalized (some text) := by
  have htrim : (trim (lowerAscii text)).toList = (trim text).toList.map lowerAsciiChar := by
    simp only [trim, lowerAscii, String.toList_ofList, trimChars_map_lowerAsciiChar]
  have hempty : trim (lowerAscii text) = "" ↔ trim text = "" := by
    rw [← String.toList_eq_nil_iff, htrim, List.map_eq_nil_iff, String.toList_eq_nil_iff]
  have hlower : lowercase (trim (lowerAscii text)) = lowercase (trim text) := by
    have hchars := lowerFrom_map_lowerAsciiChar [] (trim text).toList
    rw [lowercase, htrim, ← List.map_nil (f := lowerAsciiChar), hchars, lowercase]
  by_cases htext : trim text = ""
  · simp [normalized, present?, htext, hempty.mpr htext]
  · simp [normalized, present?, htext, hempty, hlower]

/-- A key in a field gives itself. -/
theorem normalized_of_key
    (hkey : normalized field = some key) :
    normalized (some key) = some key := by
  obtain ⟨hne, hends⟩ := trimmed_of_normalized hkey
  obtain ⟨text, -, -, hlower⟩ := normalized_eq_some_iff.mp hkey
  have htrim : trim key = key := by
    rw [trim, trimChars_eq_self_iff.mpr hends, String.ofList_toList]
  have hlowercase : lowercase key = key := by
    rw [← hlower, lowercase_lowercase]
  rw [normalized, present?, htrim, if_neg hne, Option.map_some, hlowercase]

/-- What is changed by typing a field in another way does not show in its key. -/
theorem normalized_of_retyped
    {other : Option String}
    (hretyped : Retyped field other) :
    normalized field = normalized other := by
  cases hretyped with
  | @padded text front back hfront hback =>
      have htrim : trim (front ++ text ++ back) = trim text := by
        simp only [trim, String.toList_append]
        rw [trimChars_padded hfront hback]
      simp only [normalized, present?, htrim]
  | @recased text other hsame =>
      rw [← normalized_lowerAscii text, hsame, normalized_lowerAscii]
  | emptied hblank =>
      rw [normalized_none, normalized_eq_none_iff_blank]
      rintro _ ⟨⟩
      exact hblank

theorem normalized_of_eqvGen
    {other : Option String}
    (hretyped : Relation.EqvGen Retyped field other) :
    normalized field = normalized other := by
  induction hretyped with
  | rel _ _ hstep => exact normalized_of_retyped hstep
  | refl => rfl
  | symm _ _ _ ih => exact ih.symm
  | trans _ _ _ _ _ hfirst hsecond => exact hfirst.trans hsecond

end Field

section Selector

variable {selector : DedupKey} {r : SourceRecord} {f : KeyField} {key : String}

/-- A record has the key of the first field of the selector that has one. -/
theorem key?_eq_findSome?
    (r : SourceRecord)
    (selector : DedupKey) :
    r.key? selector = selector.fields.findSome? fun f => normalized (r.text f) := by
  cases selector with
  | email | phone | username =>
      simp [SourceRecord.key?, DedupKey.fields, SourceRecord.text]
  | emailOrPhone =>
      cases hemail : normalized r.email <;>
        simp [SourceRecord.key?, DedupKey.fields, SourceRecord.text, hemail]
  | usernameOrEmail =>
      cases husername : normalized r.username <;>
        simp [SourceRecord.key?, DedupKey.fields, SourceRecord.text, husername]

theorem nodup_fields
    (selector : DedupKey) :
    selector.fields.Nodup := by
  cases selector <;> decide

/-- A record has a key exactly when the key is made of one of the fields. -/
theorem key?_eq_some_iff :
    r.key? selector = some key ↔ ∃ f, IsMadeOf selector r f key := by
  rw [key?_eq_findSome?, List.findSome?_eq_some_iff]
  constructor
  · rintro ⟨before, f, after, hfields, hkey, hbefore⟩
    obtain ⟨text, htext, hblank, hlower⟩ := normalized_eq_some_iff.mp hkey
    refine ⟨f, ⟨before, after, hfields, ?_⟩, text, htext, hblank, lowercase_eq_iff.mp hlower⟩
    intro g hg
    exact normalized_eq_none_iff_blank.mp (hbefore g hg)
  · rintro ⟨f, ⟨before, after, hfields, hbefore⟩, text, htext, hblank, hlower⟩
    refine ⟨before, f, after, hfields, ?_, ?_⟩
    · exact normalized_eq_some_iff.mpr ⟨text, htext, hblank, lowercase_eq_iff.mpr hlower⟩
    · intro g hg
      exact normalized_eq_none_iff_blank.mpr (hbefore g hg)

theorem IsMadeOf.normalized_eq
    (hmade : IsMadeOf selector r f key) :
    normalized (r.text f) = some key := by
  obtain ⟨text, htext, hblank, hlower⟩ := hmade.lowers
  exact normalized_eq_some_iff.mpr ⟨text, htext, hblank, lowercase_eq_iff.mpr hlower⟩

/-- A record whose key is put into the field that it is made of has that key. -/
theorem IsMadeOf.key?_withText
    (hmade : IsMadeOf selector r f key) :
    (r.withText (some key) f).key? selector = some key := by
  obtain ⟨before, after, hfields, hbefore⟩ := hmade.preferred
  rw [key?_eq_findSome?, List.findSome?_eq_some_iff]
  refine ⟨before, f, after, hfields, ?_, ?_⟩
  · rw [SourceRecord.text_withText_self]
    exact normalized_of_key hmade.normalized_eq
  · intro g hg
    -- the fields of a selector are different, so the preferred ones are left as they are
    have hnodup := nodup_fields selector
    rw [hfields, List.nodup_append] at hnodup
    have hne : g ≠ f := hnodup.2.2 g hg f List.mem_cons_self
    rw [SourceRecord.text_withText_of_ne r (some key) hne]
    exact normalized_eq_none_iff_blank.mpr (hbefore g hg)

/-- Records whose fields are typed in different ways have the same key. -/
theorem key?_of_retyped
    {other : SourceRecord}
    (hretyped : ∀ f ∈ selector.fields, Relation.EqvGen Retyped (r.text f) (other.text f)) :
    other.key? selector = r.key? selector := by
  have hsame : ∀ f ∈ selector.fields, normalized (other.text f) = normalized (r.text f) :=
    fun f hf => (normalized_of_eqvGen (hretyped f hf)).symm
  rw [key?_eq_findSome?, key?_eq_findSome?, ← List.head?_filterMap, ← List.head?_filterMap,
    List.filterMap_congr hsame]

end Selector

/-- A key is a normal form.  It is made of the first field of the selector that is not blank, by
trimming the text and giving each character its full mapping to lower case.  It is not empty, has
no blanks at its ends, and is its own key when it is put into that field.  Blanks around the fields
of the selector and the case of ASCII letters in them do not change the key, and a blank field is
as good as none. -/
theorem keys_are_normal_forms
    (selector : DedupKey)
    (r : SourceRecord) :
    (∀ key, r.key? selector = some key ↔ ∃ f, IsMadeOf selector r f key) ∧
    (∀ f key, IsMadeOf selector r f key →
      key ≠ "" ∧
      HasNoBlankEnds key.toList ∧
      (r.withText (some key) f).key? selector = some key) ∧
    ∀ other : SourceRecord,
      (∀ f ∈ selector.fields, Relation.EqvGen Retyped (r.text f) (other.text f)) →
      other.key? selector = r.key? selector := by
  refine ⟨fun key => key?_eq_some_iff, ?_, fun other hretyped => key?_of_retyped hretyped⟩
  intro f key hmade
  obtain ⟨hne, hends⟩ := trimmed_of_normalized hmade.normalized_eq
  exact ⟨hne, hends, hmade.key?_withText⟩

end AccountMigration
