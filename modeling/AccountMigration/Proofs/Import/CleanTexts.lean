import AccountMigration.Proofs.Import.EntryKeys
import AccountMigration.Proofs.Text.Numeral
import AccountMigration.Proofs.Uuid

/-!
# The texts of an entry

A text of an entry is never blank, and it has no blanks at its ends.  There is one exception: a
username that is made up is what stands in front of the at sign of an email address, and a blank may
stand right there.

* `Text.IsClean` and `Text.isClean_iff`: fields that trimming leaves as they are.
* `SourceRecord.text_toEntry_withTexts`: the entry of a record that has the texts of an entry.
* `SourceRecord.CutsNameAtBlank` and `SourceRecord.isClean_username_iff`: the exception.
* `SourceRecord.entry_texts_are_clean`: the other texts are clean, and made again from themselves.
* `SourceRecord.username_keeps_blank`: a username that is not.
-/

namespace AccountMigration

open Text

namespace Text

/-- A field that is absent, or neither empty nor with blanks at its ends. -/
def IsClean
    (field : Option String) : Prop :=
  ∀ s ∈ field, s ≠ "" ∧ HasNoBlankEnds s.toList

theorem isClean_none :
    IsClean none :=
  nofun

theorem isClean_some_iff
    {s : String} :
    IsClean (some s) ↔ s ≠ "" ∧ HasNoBlankEnds s.toList :=
  ⟨fun hclean => hclean s rfl, fun hs _ hsome => Option.some.inj hsome ▸ hs⟩

/-- Fields are clean when trimming leaves them as they are. -/
theorem isClean_iff
    {field : Option String} :
    IsClean field ↔ present? field = field := by
  cases field with
  | none =>
      exact iff_of_true isClean_none rfl
  | some s =>
      have htrim : trim s = s ↔ HasNoBlankEnds s.toList := by
        rw [← trimChars_eq_self_iff, trim, ← String.toList_inj, String.toList_ofList]
      rw [isClean_some_iff, ← htrim, present?]
      split
      · next hempty =>
        simp only [reduceCtorEq, iff_false, not_and]
        rintro hne hsame
        exact hne (hsame ▸ hempty)
      · next hne =>
        rw [Option.some_inj]
        exact ⟨And.right, fun hsame => ⟨hsame ▸ hne, hsame⟩⟩

theorem isClean_present?
    (field : Option String) :
    IsClean (present? field) :=
  isClean_iff.mpr (present?_present? field)

/-- A field without any blank is clean. -/
theorem isClean_of_no_blank
    {s : String}
    (hne : s ≠ "")
    (hs : ∀ c ∈ s.toList, isBlank c = false) :
    IsClean (some s) :=
  isClean_some_iff.mpr ⟨hne, trimChars_eq_self_iff.mp (trimChars_of_no_blank hs)⟩

theorem not_isBlankText_of_head
    {s : String}
    (hne : s ≠ "")
    (hhead : ∀ c ∈ s.toList.head?, isBlank c = false) :
    isBlankText s = false := by
  cases hcs : s.toList with
  | nil =>
      exact absurd (String.toList_eq_nil_iff.mp hcs) hne
  | cons c rest =>
      have hc : isBlank c = false := hhead c (by rw [hcs]; rfl)
      rw [isBlankText, hcs, List.all_cons, hc, Bool.false_and]

theorem IsClean.not_isBlankText
    {field : Option String}
    (hclean : IsClean field)
    {s : String}
    (hs : s ∈ field) :
    isBlankText s = false :=
  not_isBlankText_of_head (hclean s hs).1 (hclean s hs).2.head

end Text

/-! ## Made up usernames -/

/-- An email address with a blank in front of its first at sign. -/
def CutsAtBlank
    (email : String) : Prop :=
  ∃ front blank back, email.toList = front ++ blank :: '@' :: back ∧
    '@' ∉ front ∧ isBlank blank = true

section Username

variable {email : String} {phone : Option String}

/-- The local part of an email address ends at the first at sign. -/
theorem localPart_of_at
    {front back : List Char}
    (hemail : email.toList = front ++ '@' :: back)
    (hfront : '@' ∉ front) :
    localPart email = String.ofList front := by
  have hno : ∀ c ∈ front, decide (c ≠ '@') = true := by
    intro c hc
    exact decide_eq_true fun hat => hfront (hat ▸ hc)
  rw [localPart, hemail, List.takeWhile_append_of_pos hno, List.takeWhile_cons_of_neg (by decide),
    List.append_nil]

/-- An address without an at sign is its own local part. -/
theorem localPart_of_no_at
    (hemail : '@' ∉ email.toList) :
    localPart email = email := by
  have hno : ∀ c ∈ email.toList, decide (c ≠ '@') = true := by
    intro c hc
    exact decide_eq_true fun hat => hemail (hat ▸ hc)
  rw [localPart, List.takeWhile_eq_self_iff.mpr hno, String.ofList_toList]

/-- A blank in front of the at sign is the last character of the local part. -/
theorem CutsAtBlank.exists_localPart
    (hcut : CutsAtBlank email) :
    ∃ front blank, localPart email = String.ofList (front ++ [blank]) ∧ isBlank blank = true := by
  obtain ⟨front, blank, back, hemail, hfront, hblank⟩ := hcut
  refine ⟨front, blank, localPart_of_at (by rw [hemail, List.append_assoc]; rfl) ?_, hblank⟩
  rw [List.mem_append, List.mem_singleton]
  rintro (hmem | rfl)
  · exact hfront hmem
  · exact absurd hblank (by decide)

/-- The local part of a trimmed address begins as the address does. -/
theorem isBlank_head_localPart
    (hemail : HasNoBlankEnds email.toList) :
    ∀ c ∈ (localPart email).toList.head?, isBlank c = false := by
  intro c hc
  obtain ⟨rest, hrest⟩ := List.takeWhile_prefix (fun c => decide (c ≠ '@')) (l := email.toList)
  refine hemail.head c ?_
  rw [← hrest, List.head?_append]
  rw [localPart, String.toList_ofList] at hc
  rw [Option.mem_def.mp hc]
  rfl

theorem isClean_localPart_iff
    (hemail : HasNoBlankEnds email.toList)
    (hne : localPart email ≠ "") :
    IsClean (some (localPart email)) ↔ ¬ CutsAtBlank email := by
  rw [isClean_some_iff]
  constructor
  · rintro ⟨-, hends⟩ hcut
    obtain ⟨front, blank, hlocal, hblank⟩ := hcut.exists_localPart
    rw [hlocal, String.toList_ofList] at hends
    rw [hends.last blank List.getLast?_concat] at hblank
    cases hblank
  · intro hcut
    refine ⟨hne, isBlank_head_localPart hemail, fun c hc => ?_⟩
    by_cases hat : '@' ∈ email.toList
    · obtain ⟨front, back, hsplit, hfront⟩ := List.eq_append_cons_of_mem hat
      rw [localPart_of_at hsplit hfront, String.toList_ofList] at hc
      obtain ⟨start, rfl⟩ := List.getLast?_eq_some_iff.mp hc
      refine eq_false_of_ne_true fun hblank => hcut ⟨start, c, back, ?_, ?_, hblank⟩
      · rw [hsplit, List.append_assoc]
        rfl
      · exact fun hmem => hfront (List.mem_append_left [c] hmem)
    · rw [localPart_of_no_at hat] at hc
      exact hemail.last c hc

theorem isClean_phoneDigits
    (phone : Option String) :
    IsClean ((phone.map phoneDigits).bind nonEmpty?) := by
  cases phone with
  | none =>
      exact isClean_none
  | some phone =>
      rw [Option.map_some, Option.bind_some, nonEmpty?]
      split
      · exact isClean_none
      · next hne =>
        refine isClean_of_no_blank hne fun c hc => ?_
        rw [phoneDigits, String.toList_ofList, List.mem_filter] at hc
        exact isBlank_of_isAsciiDigit hc.2

/-- A made up username is a local part, or made of the digits of a phone number when there is no
local part. -/
theorem synthesizeUsername_cases
    (email phone : Option String) :
    (∃ e ∈ email, localPart e ≠ "" ∧ synthesizeUsername email phone = some (localPart e)) ∨
    (∀ e ∈ email, localPart e = "") ∧
      synthesizeUsername email phone = (phone.map phoneDigits).bind nonEmpty? := by
  cases email with
  | none =>
      exact .inr ⟨nofun, rfl⟩
  | some e =>
      rw [synthesizeUsername, Option.map_some, Option.bind_some, nonEmpty?]
      by_cases he : localPart e = ""
      · rw [if_pos he]
        exact .inr ⟨fun _ hsome => Option.some.inj hsome ▸ he, rfl⟩
      · rw [if_neg he]
        exact .inl ⟨e, rfl, he, rfl⟩

variable {email : Option String} (hemail : IsClean email)
include hemail

theorem isClean_synthesizeUsername_iff :
    IsClean (synthesizeUsername email phone) ↔ ∀ e ∈ email, ¬ CutsAtBlank e := by
  rcases synthesizeUsername_cases email phone with ⟨e, he, hne, hname⟩ | ⟨hnone, hname⟩
  · rw [hname, isClean_localPart_iff (hemail e he).2 hne]
    exact ⟨fun hcut _ hsome => Option.mem_unique he hsome ▸ hcut, fun hcut => hcut e he⟩
  · rw [hname]
    refine iff_of_true (isClean_phoneDigits phone) fun e he hcut => ?_
    obtain ⟨front, blank, hlocal, -⟩ := hcut.exists_localPart
    rw [hnone e he, ← String.toList_inj, String.toList_ofList] at hlocal
    simp at hlocal

theorem not_isBlankText_synthesizeUsername
    {name : String}
    (hname : name ∈ synthesizeUsername email phone) :
    isBlankText name = false := by
  rcases synthesizeUsername_cases email phone with ⟨e, he, hne, hlocal⟩ | ⟨-, hdigits⟩
  · obtain rfl : localPart e = name := Option.some.inj (hlocal.symm.trans hname)
    exact not_isBlankText_of_head hne (isBlank_head_localPart (hemail e he).2)
  · rw [hdigits] at hname
    exact (isClean_phoneDigits phone).not_isBlankText hname

end Username

/-! ## Entries -/

/-- The texts of an entry. -/
inductive EntryText where
  | id
  | email
  | username
  | phone
  | fullName
  | passwordHash

/-- A text of an entry. -/
def ImportEntry.text
    (entry : ImportEntry) : EntryText → Option String
  | .id => entry.id
  | .email => entry.email
  | .username => entry.username
  | .phone => entry.phone
  | .fullName => entry.fullName
  | .passwordHash => entry.passwordHashImport

theorem Uuid.isClean_toText
    (u : Uuid) :
    IsClean (some u.toText) := by
  refine isClean_of_no_blank ?_ ?_
  · rw [ne_eq, ← String.toList_eq_nil_iff, toText, String.toList_ofList]
    exact List.ne_nil_of_length_pos (by rw [u.length_toChars]; decide)
  · rw [toText, String.toList_ofList]
    exact u.isBlank_toChars

/-- An id that is sent is sent as it is. -/
theorem EntryRules.idOf_idOf
    {rules : EntryRules}
    {id sent : String}
    (hsent : rules.idOf id = some sent) :
    rules.idOf sent = some sent := by
  unfold idOf at hsent ⊢
  cases hids : rules.ids with
  | generateNew =>
      rw [hids] at hsent
      cases hsent
  | preserveUuid =>
      rw [hids] at hsent
      obtain ⟨u, -, rfl⟩ := Option.map_eq_some_iff.mp hsent
      show (Uuid.ofText? (trim u.toText)).map Uuid.toText = some u.toText
      rw [u.trim_toText, u.ofText?_toText]
      rfl

theorem EntryRules.isClean_idOf
    (rules : EntryRules)
    (id : String) :
    IsClean (rules.idOf id) := by
  unfold idOf
  cases rules.ids with
  | generateNew =>
      exact isClean_none
  | preserveUuid =>
      intro sent hsent
      obtain ⟨u, -, rfl⟩ := Option.map_eq_some_iff.mp hsent
      exact u.isClean_toText _ rfl

theorem EntryRules.isClean_hashOf
    (rules : EntryRules)
    (hash : Option String) :
    IsClean (rules.hashOf hash) := by
  unfold hashOf
  cases rules.passwords with
  | transfer =>
      exact isClean_present? hash
  | forceReset | none =>
      exact isClean_none

namespace SourceRecord

/-- The record with the texts of an entry; its own id is kept where the entry has none. -/
def withTexts
    (r : SourceRecord)
    (entry : ImportEntry) : SourceRecord :=
  { r with
    id := entry.id.getD r.id
    email := entry.email
    username := entry.username
    phone := entry.phone
    passwordHash := entry.passwordHashImport
    fullName := entry.fullName }

/-- A record without a username, and with a blank in front of the first at sign of its email
address. -/
def CutsNameAtBlank
    (r : SourceRecord) : Prop :=
  r.LacksUsername ∧ ∃ email ∈ present? r.email, CutsAtBlank email

variable (rules : EntryRules) (r : SourceRecord)

theorem isClean_username_iff :
    IsClean (r.toEntry rules).username ↔ ¬ r.CutsNameAtBlank := by
  by_cases hlacks : r.LacksUsername
  · rw [made_up_username rules hlacks, isClean_synthesizeUsername_iff (isClean_present? r.email)]
    simp [CutsNameAtBlank, hlacks]
  · rw [username_toEntry rules hlacks]
    exact iff_of_true (isClean_present? r.username) fun hcut => hlacks hcut.1

theorem isClean_text_iff
    (text : EntryText) :
    IsClean ((r.toEntry rules).text text) ↔ (text = .username → ¬ r.CutsNameAtBlank) := by
  cases text with
  | username =>
      exact (isClean_username_iff rules r).trans ⟨fun hkept _ => hkept, fun hkept => hkept rfl⟩
  | id =>
      exact iff_of_true (rules.isClean_idOf r.id) nofun
  | email =>
      exact iff_of_true (isClean_present? r.email) nofun
  | phone =>
      exact iff_of_true (isClean_present? r.phone) nofun
  | fullName =>
      exact iff_of_true (isClean_present? r.fullName) nofun
  | passwordHash =>
      exact iff_of_true (rules.isClean_hashOf r.passwordHash) nofun

/-- A username is never blank, whichever way it is found. -/
theorem not_isBlankText_username
    {name : String}
    (hname : name ∈ (r.toEntry rules).username) :
    isBlankText name = false := by
  by_cases hlacks : r.LacksUsername
  · rw [made_up_username rules hlacks] at hname
    exact not_isBlankText_synthesizeUsername (isClean_present? r.email) hname
  · rw [username_toEntry rules hlacks] at hname
    exact (isClean_present? r.username).not_isBlankText hname

theorem not_isBlankText_text
    (text : EntryText)
    {s : String}
    (hs : s ∈ (r.toEntry rules).text text) :
    isBlankText s = false := by
  by_cases husername : text = .username
  · subst husername
    exact not_isBlankText_username rules r hs
  · have hclean : IsClean ((r.toEntry rules).text text) :=
      (isClean_text_iff rules r text).mpr fun hsame => absurd hsame husername
    exact hclean.not_isBlankText hs

/-- An entry that is made from its own texts has them trimmed. -/
theorem text_toEntry_withTexts
    (text : EntryText) :
    ((r.withTexts (r.toEntry rules)).toEntry rules).text text =
      present? ((r.toEntry rules).text text) := by
  cases text with
  | email | phone | fullName =>
      rfl
  | id =>
      show rules.idOf ((rules.idOf r.id).getD r.id) = present? (rules.idOf r.id)
      rw [isClean_iff.mp (rules.isClean_idOf r.id)]
      cases hid : rules.idOf r.id with
      | none => exact hid
      | some sent => exact EntryRules.idOf_idOf hid
  | passwordHash =>
      show rules.hashOf (rules.hashOf r.passwordHash) = present? (rules.hashOf r.passwordHash)
      unfold EntryRules.hashOf
      cases rules.passwords <;> rfl
  | username =>
      show (present? (r.toEntry rules).username).or
          (synthesizeUsername (present? (present? r.email)) (present? (present? r.phone))) =
        present? (r.toEntry rules).username
      rw [present?_present?, present?_present?]
      cases hname : (r.toEntry rules).username with
      | none =>
          -- no username could be made up, and none can be now
          exact (Option.or_eq_none_iff.mp hname).2
      | some name =>
          have hne : trim name ≠ "" := by
            rw [ne_eq, trim_eq_empty_iff, not_isBlankText_username rules r hname]
            exact Bool.false_ne_true
          rw [present?, if_neg hne, Option.some_or]

/-- The texts of an entry are absent or neither empty nor with blanks at their ends, and an entry
that is made from them has the same ones.  The username alone is different, and just where it is
made up from an email address with a blank in front of the first at sign: even then it is not blank,
but it ends in a blank that goes when the entry is made again. -/
theorem entry_texts_are_clean :
    (∀ text : EntryText,
      IsClean ((r.toEntry rules).text text) ↔ (text = .username → ¬ r.CutsNameAtBlank)) ∧
    (∀ text : EntryText,
      ((r.withTexts (r.toEntry rules)).toEntry rules).text text = (r.toEntry rules).text text ↔
        (text = .username → ¬ r.CutsNameAtBlank)) ∧
    (∀ text : EntryText,
      ((r.withTexts (r.toEntry rules)).toEntry rules).text text =
        present? ((r.toEntry rules).text text)) ∧
    ∀ (text : EntryText) (s : String), s ∈ (r.toEntry rules).text text → isBlankText s = false := by
  refine ⟨isClean_text_iff rules r, fun text => ?_, text_toEntry_withTexts rules r,
    fun text _ => not_isBlankText_text rules r text⟩
  rw [text_toEntry_withTexts, ← isClean_iff, isClean_text_iff]

/-- A record with blanks around its texts, and one in front of an at sign. -/
def paddedRecord : SourceRecord :=
  { id := " 6F9619FF-8B86-D011-B42D-00C04FC964FF"
    email := some "a b @x.org\t"
    username := some "\u3000ada "
    phone := some " "
    passwordHash := some "$2b$12$abc\n" }

/-- A record with a username of its own has clean texts only. -/
theorem entry_texts_are_clean_paddedRecord :
    (paddedRecord.toEntry {}).email = some "a b @x.org" ∧
    (paddedRecord.toEntry {}).username = some "ada" ∧
    ∀ text : EntryText, IsClean ((paddedRecord.toEntry {}).text text) := by
  refine ⟨rfl, rfl, fun text => ?_⟩
  refine ((entry_texts_are_clean {} paddedRecord).1 text).mpr fun _ hcut => ?_
  have hown : present? paddedRecord.username ≠ none := by
    decide
  exact hown hcut.1

/-- A record that has a name with blanks in its email address, and no username. -/
def spacedRecord : SourceRecord :=
  { id := "1", email := some "a b @x.org" }

/-- A username that is made up may end in a blank, and then it is not made again. -/
theorem username_keeps_blank :
    (spacedRecord.toEntry {}).username = some "a b " ∧
    ¬ IsClean (spacedRecord.toEntry {}).username ∧
    ((spacedRecord.withTexts (spacedRecord.toEntry {})).toEntry {}).username = some "a b" := by
  refine ⟨rfl, fun hclean => ?_, rfl⟩
  exact absurd (isClean_iff.mp hclean) (by decide)

end SourceRecord

end AccountMigration
