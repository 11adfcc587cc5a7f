import AccountMigration.Text.CodeRange

/-!
# Blank characters and trimmed text

A character is blank when it has the Unicode property White_Space.  Text is trimmed by
dropping the blanks at both of its ends, and a field is present when something is left.

* `trimChars_nil_iff`: nothing is left exactly when every character is blank.
* `present?_eq_none_iff`: a field is absent exactly when it is missing or blank.
-/

namespace AccountMigration
namespace Text

/-- The property White_Space. -/
def blankRanges : List CodeRange :=
  [⟨0x09, 0x0D⟩, ⟨0x20, 0x20⟩, ⟨0x85, 0x85⟩, ⟨0xA0, 0xA0⟩, ⟨0x1680, 0x1680⟩,
    ⟨0x2000, 0x200A⟩, ⟨0x2028, 0x2029⟩, ⟨0x202F, 0x202F⟩, ⟨0x205F, 0x205F⟩,
    ⟨0x3000, 0x3000⟩]

/-- Whether a character is white space in any script. -/
def isBlank
    (c : Char) : Bool :=
  CodeRange.covers blankRanges c

/-- Drop the blanks in front. -/
def trimStart
    (cs : List Char) : List Char :=
  cs.dropWhile isBlank

/-- Drop the blanks at the end. -/
def trimEnd
    (cs : List Char) : List Char :=
  (trimStart cs.reverse).reverse

/-- Drop the blanks at both ends. -/
def trimChars
    (cs : List Char) : List Char :=
  trimEnd (trimStart cs)

/-- Text without the blanks at its ends. -/
def trim
    (s : String) : String :=
  String.ofList (trimChars s.toList)

/-- Whether text has no character other than blanks. -/
def isBlankText
    (s : String) : Bool :=
  s.toList.all isBlank

/-- The trimmed text of a field; a field with nothing but blanks counts as absent. -/
def present? : Option String → Option String
  | none => none
  | some s => if trim s = "" then none else some (trim s)

@[simp] theorem trimStart_nil :
    trimStart [] = [] := by
  rfl

theorem trimStart_cons
    (c : Char)
    (cs : List Char) :
    trimStart (c :: cs) = if isBlank c then trimStart cs else c :: cs := by
  simp [trimStart, List.dropWhile_cons]

theorem trimStart_nil_iff
    (cs : List Char) :
    trimStart cs = [] ↔ cs.all isBlank = true := by
  induction cs with
  | nil =>
      simp
  | cons c cs ih =>
      rw [trimStart_cons]
      by_cases hc : isBlank c = true
      · simpa [hc] using ih
      · simp [hc]

theorem trimEnd_nil_iff
    (cs : List Char) :
    trimEnd cs = [] ↔ cs.all isBlank = true := by
  rw [trimEnd, List.reverse_eq_nil_iff, trimStart_nil_iff, List.all_reverse]

theorem all_isBlank_trimStart
    (cs : List Char) :
    (trimStart cs).all isBlank = cs.all isBlank := by
  induction cs with
  | nil =>
      rfl
  | cons c cs ih =>
      rw [trimStart_cons]
      by_cases hc : isBlank c = true
      · simp [hc, ih]
      · simp [hc]

/-- Trimming leaves nothing exactly when every character is blank. -/
theorem trimChars_nil_iff
    (cs : List Char) :
    trimChars cs = [] ↔ cs.all isBlank = true := by
  rw [trimChars, trimEnd_nil_iff, all_isBlank_trimStart]

theorem trim_eq_empty_iff
    (s : String) :
    trim s = "" ↔ isBlankText s = true := by
  rw [isBlankText, ← trimChars_nil_iff, trim]
  constructor
  · intro h
    simpa using congrArg String.toList h
  · intro h
    simp [h]

@[simp] theorem present?_none :
    present? none = none := by
  rfl

/-- A field is absent exactly when it is missing or holds blanks only. -/
theorem present?_eq_none_iff
    (field : Option String) :
    present? field = none ↔ ∀ s ∈ field, isBlankText s = true := by
  cases field with
  | none =>
      simp
  | some s =>
      simp [present?, trim_eq_empty_iff]

end Text
end AccountMigration
