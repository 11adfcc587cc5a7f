import AccountMigration.Import.Entry
import AccountMigration.Proofs.Text.Trim

/-!
# Keys and usernames of entries

An entry has fields of its own, and so a key under each selector.  It is the key of its record,
unless the username of the entry is made up and the selector looks at usernames.

* `ImportEntry.key?`: the key of an entry.
* `SourceRecord.key?_toEntry`: a key of a record is a key of its entry.
* `SourceRecord.username_toEntry` and `SourceRecord.made_up_username`: where the username of an
  entry comes from.
* `SourceRecord.key?_of_own_username`: records with usernames are known by them.
-/

namespace AccountMigration

open Text

/-- The key of an entry under a selector: that of a record with the fields of the entry. -/
def ImportEntry.key?
    (entry : ImportEntry)
    (selector : DedupKey) : Option String :=
  SourceRecord.key?
    { id := "", email := entry.email, username := entry.username, phone := entry.phone }
    selector

/-- Two entries with usernames that are the same without the blanks around them and in lower
case. -/
def ImportEntry.SharesUsername
    (a b : ImportEntry) : Prop :=
  normalized a.username ≠ none ∧ normalized a.username = normalized b.username

instance
    (a b : ImportEntry) :
    Decidable (a.SharesUsername b) :=
  inferInstanceAs (Decidable (_ ∧ _))

namespace SourceRecord

/-- A record whose username is absent or blank. -/
def LacksUsername
    (r : SourceRecord) : Prop :=
  present? r.username = none

variable {r : SourceRecord} (rules : EntryRules)

theorem username_toEntry
    (hown : ¬ r.LacksUsername) :
    (r.toEntry rules).username = present? r.username := by
  obtain ⟨name, hname⟩ := Option.ne_none_iff_exists'.mp hown
  simp [toEntry, hname]

theorem made_up_username
    (hlacks : r.LacksUsername) :
    (r.toEntry rules).username = synthesizeUsername (present? r.email) (present? r.phone) := by
  have hnone : present? r.username = none := hlacks
  simp [toEntry, hnone]

/-- A record with a username is known by it, and so is its entry. -/
theorem key?_of_own_username
    (hown : ¬ r.LacksUsername) :
    normalized (r.toEntry rules).username = r.key? .usernameOrEmail := by
  obtain ⟨name, hname⟩ := Option.ne_none_iff_exists'.mp hown
  rw [username_toEntry rules hown, normalized_present?]
  simp [key?, normalized, hname]

/-- A key of a record is a key of its entry, as long as no username is made up for it. -/
theorem key?_toEntry
    {selector : DedupKey}
    (hselector : selector ≠ .usernameOrEmail)
    {key : String}
    (hkey : r.key? selector = some key) :
    (r.toEntry rules).key? selector = some key := by
  cases selector with
  | email =>
      simpa [ImportEntry.key?, SourceRecord.key?, toEntry] using hkey
  | phone =>
      simpa [ImportEntry.key?, SourceRecord.key?, toEntry] using hkey
  | username =>
      -- a record that has a key here has a username, so none is made up
      have hown : ¬ r.LacksUsername := by
        intro hlacks
        have hnone : normalized r.username = none := normalized_eq_none_iff.mpr hlacks
        rw [SourceRecord.key?, hnone] at hkey
        cases hkey
      simpa [ImportEntry.key?, SourceRecord.key?, username_toEntry rules hown] using hkey
  | emailOrPhone =>
      simpa [ImportEntry.key?, SourceRecord.key?, toEntry] using hkey
  | usernameOrEmail =>
      exact absurd rfl hselector

end SourceRecord

end AccountMigration
