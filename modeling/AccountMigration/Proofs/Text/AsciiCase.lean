import AccountMigration.Proofs.Text.Lowercase
import AccountMigration.Text.Ascii

/-!
# The case of ASCII letters does not show

An ASCII letter in upper case has the same lower case as the one in lower case, and both are cased
and not case-ignorable, so that a capital sigma between them cannot tell them apart.  Neither of
them is a blank.

* `Text.IsAsciiLetter`: the letters, by their code points.
* `Text.lowerAsciiChar_cases`: a character stays as it is or is one of two such letters.
* `Text.lowerFrom_map_lowerAsciiChar` and `Text.trimChars_map_lowerAsciiChar`: neither lower casing
  nor trimming sees the case of ASCII letters.
-/

namespace AccountMigration
namespace Text

/-- The letters of ASCII in upper and lower case. -/
def asciiLetterRanges : List CodeRange :=
  [⟨0x41, 0x5A⟩, ⟨0x61, 0x7A⟩]

/-- Whether a character is a letter of ASCII. -/
def IsAsciiLetter
    (c : Char) : Prop :=
  ∃ r ∈ asciiLetterRanges, r.first ≤ c.toNat ∧ c.toNat ≤ r.last

theorem asciiLetterRanges_isApart :
    (asciiLetterRanges.all fun r =>
      caseIgnorableRanges.all r.isApart && blankRanges.all r.isApart) = true := by
  decide +kernel

/-- The first run of the table is that of the ASCII letters. -/
theorem asciiRun_mem :
    ⟨0x41, 0x5A, 1, 0x61⟩ ∈ lowercaseRuns :=
  List.mem_of_getElem? (i := 0) rfl

section Letters

variable {c : Char}

theorem IsAsciiLetter.isCased
    (hc : IsAsciiLetter c) :
    isCased c = true := by
  obtain ⟨r, hr, hrange⟩ := hc
  have hfirst : asciiLetterRanges <+: casedRanges := ⟨casedRanges.drop 2, rfl⟩
  exact CodeRange.covers_iff.mpr ⟨r, hfirst.subset hr, hrange⟩

theorem IsAsciiLetter.not_isCaseIgnorable
    (hc : IsAsciiLetter c) :
    isCaseIgnorable c = false := by
  obtain ⟨r, hr, hrange⟩ := hc
  have hapart := List.all_eq_true.mp asciiLetterRanges_isApart r hr
  rw [Bool.and_eq_true, List.all_eq_true] at hapart
  exact CodeRange.not_covers_of_isApart hapart.1 hrange

theorem IsAsciiLetter.not_isBlank
    (hc : IsAsciiLetter c) :
    isBlank c = false := by
  obtain ⟨r, hr, hrange⟩ := hc
  have hapart := List.all_eq_true.mp asciiLetterRanges_isApart r hr
  rw [Bool.and_eq_true, List.all_eq_true, List.all_eq_true] at hapart
  exact CodeRange.not_covers_of_isApart hapart.2 hrange

theorem IsAsciiLetter.toNat_lt
    (hc : IsAsciiLetter c) :
    c.toNat < 0x80 := by
  obtain ⟨r, hr, hrange⟩ := hc
  rcases List.mem_pair.mp hr with rfl | rfl
  · exact hrange.2.trans_lt (by decide)
  · exact hrange.2.trans_lt (by decide)

/-- A character is not changed, or is a letter in upper case that becomes the one in lower case,
as it does in full lower casing. -/
theorem lowerAsciiChar_cases
    (c : Char) :
    lowerAsciiChar c = c ∨
      IsAsciiLetter c ∧ IsAsciiLetter (lowerAsciiChar c) ∧
        lowerChar c = lowerAsciiChar c ∧ IsSettled (lowerAsciiChar c) := by
  unfold lowerAsciiChar
  split
  · next hupper =>
    have hrange : 0x41 ≤ c.toNat ∧ c.toNat ≤ 0x5A := hupper
    have himage : CaseRun.image? ⟨0x41, 0x5A, 1, 0x61⟩ c.toNat = some (c.toNat + 32) :=
      CaseRun.image?_eq_some_iff.mpr
        ⟨hrange.1, hrange.2, Nat.mod_one _, by simp only; omega⟩
    refine .inr ⟨⟨_, List.mem_cons_self, hrange⟩, ⟨_, List.mem_pair.mpr (.inr rfl), ?_⟩,
      lowerChar_of_image asciiRun_mem himage, isSettled_ofNat_image asciiRun_mem himage⟩
    rw [toNat_ofNat_image asciiRun_mem himage]
    simp only
    omega
  · exact .inl rfl

theorem isCased_lowerAsciiChar
    (c : Char) :
    isCased (lowerAsciiChar c) = isCased c := by
  rcases lowerAsciiChar_cases c with h | ⟨hupper, hlower, -⟩
  · rw [h]
  · rw [hupper.isCased, hlower.isCased]

theorem isCaseIgnorable_lowerAsciiChar
    (c : Char) :
    isCaseIgnorable (lowerAsciiChar c) = isCaseIgnorable c := by
  rcases lowerAsciiChar_cases c with h | ⟨hupper, hlower, -⟩
  · rw [h]
  · rw [hupper.not_isCaseIgnorable, hlower.not_isCaseIgnorable]

theorem isBlank_lowerAsciiChar
    (c : Char) :
    isBlank (lowerAsciiChar c) = isBlank c := by
  rcases lowerAsciiChar_cases c with h | ⟨hupper, hlower, -⟩
  · rw [h]
  · rw [hupper.not_isBlank, hlower.not_isBlank]

end Letters

section Texts

theorem startsCased_map_lowerAsciiChar
    (cs : List Char) :
    startsCased (cs.map lowerAsciiChar) = startsCased cs := by
  induction cs with
  | nil =>
      rfl
  | cons c cs ih =>
      rw [List.map_cons, startsCased_cons, startsCased_cons, ih, isCaseIgnorable_lowerAsciiChar,
        isCased_lowerAsciiChar]

theorem endsWord_map_lowerAsciiChar
    (before after : List Char) :
    endsWord (before.map lowerAsciiChar) (after.map lowerAsciiChar) = endsWord before after := by
  rw [endsWord, startsCased_map_lowerAsciiChar, startsCased_map_lowerAsciiChar, endsWord]

/-- The lower case of a character does not depend on the case of ASCII letters, its own or those
of its neighbours. -/
theorem lowerBetween_map_lowerAsciiChar
    (before : List Char)
    (c : Char)
    (after : List Char) :
    lowerBetween (before.map lowerAsciiChar) (lowerAsciiChar c) (after.map lowerAsciiChar) =
      lowerBetween before c after := by
  rcases lowerAsciiChar_cases c with h | ⟨hupper, -, hlower, hsettled⟩
  · rw [h, lowerBetween, endsWord_map_lowerAsciiChar, lowerBetween]
  · have hsigma : c ≠ 'Σ' := by
      rintro rfl
      exact absurd hupper.toNat_lt (by decide)
    have hdotted : c ≠ 'İ' := by
      rintro rfl
      exact absurd hupper.toNat_lt (by decide)
    rw [lowerBetween_of_settled hsettled, lowerBetween, if_neg hsigma, if_neg hdotted, hlower]

/-- Lower casing does not see the case of ASCII letters. -/
theorem lowerFrom_map_lowerAsciiChar
    (before cs : List Char) :
    lowerFrom (before.map lowerAsciiChar) (cs.map lowerAsciiChar) = lowerFrom before cs := by
  induction cs generalizing before with
  | nil =>
      rfl
  | cons c after ih =>
      have hrest := ih (c :: before)
      rw [List.map_cons] at hrest
      rw [List.map_cons, lowerFrom_cons, lowerBetween_map_lowerAsciiChar, hrest, lowerFrom_cons]

theorem trimStart_map_lowerAsciiChar
    (cs : List Char) :
    trimStart (cs.map lowerAsciiChar) = (trimStart cs).map lowerAsciiChar := by
  have hblank : isBlank ∘ lowerAsciiChar = isBlank := funext isBlank_lowerAsciiChar
  rw [trimStart, List.dropWhile_map, hblank, trimStart]

/-- Trimming does not see the case of ASCII letters. -/
theorem trimChars_map_lowerAsciiChar
    (cs : List Char) :
    trimChars (cs.map lowerAsciiChar) = (trimChars cs).map lowerAsciiChar := by
  rw [trimChars, trimEnd, trimStart_map_lowerAsciiChar, ← List.map_reverse,
    trimStart_map_lowerAsciiChar, ← List.map_reverse, trimChars, trimEnd]

end Texts

end Text
end AccountMigration
