import AccountMigration.Json.Fields
import AccountMigration.Json.Lexer
import AccountMigration.Proofs.Text.SignedNumeral

/-!
# Numbers and counters

A number of a JSON text is spelled by an optional minus sign, digits, a fraction and an exponent.
Only digits alone make a counter, and only when they do not exceed 64 bits.

* `Json.Number`: the spellings of numbers with their values.
* `Json.number_of_number?` and `Json.isNumberChar_of_number?`: every number that is read has such a
  spelling.
* `Json.Unfit` and `Json.word?_eq_none_iff`: the spellings that are no counters.
-/

namespace AccountMigration
namespace Json

open Text Numeral

/-- A part of a number that makes it more than an integer. -/
def IsFractional
    (cs : List Char) : Prop :=
  '.' ∈ cs ∨ 'e' ∈ cs ∨ 'E' ∈ cs

/-- The spelling of a number, and its value. -/
inductive Number : List Char → Json → Prop where
  | digits {cs : List Char} : IsDigits cs → Number cs (.int (value cs))
  | minus {cs : List Char} : IsDigits cs → value cs ≠ 0 → Number ('-' :: cs) (.int (-value cs))
  | minusZero : Number ['-', '0'] (.real "-0")
  | real {c : Char} {cs : List Char} :
      c = '-' ∨ isAsciiDigit c = true → IsFractional (c :: cs) →
        Number (c :: cs) (.real (String.ofList (c :: cs)))

theorem isFractional_of_isExponent
    {c : Char}
    {cs : List Char}
    (h : isExponent (c :: cs) = true) :
    IsFractional (c :: cs) := by
  simp only [isExponent, Bool.and_eq_true, Bool.or_eq_true, decide_eq_true_eq] at h
  rcases h.1.1 with rfl | rfl <;> simp [IsFractional]

/-- What stands behind the integer part of a number is a fraction or an exponent. -/
theorem isFractional_of_isNumberTail
    {cs : List Char}
    (hcs : cs ≠ [])
    (h : isNumberTail cs = true) :
    IsFractional cs := by
  unfold isNumberTail at h
  split at h
  · simp [IsFractional]
  · obtain ⟨c, cs, rfl⟩ := List.exists_cons_of_ne_nil hcs
    exact isFractional_of_isExponent h

/-- An integer part is zero only as a single digit. -/
theorem value_ne_zero_of_isWhole
    {cs : List Char}
    (hdigits : cs.all isAsciiDigit = true)
    (hwhole : isWhole cs = true)
    (hzero : cs ≠ ['0']) :
    value cs ≠ 0 := by
  rw [Ne, value_eq_zero_iff hdigits]
  intro hall
  unfold isWhole at hwhole
  split at hwhole
  · cases hwhole
  · exact hzero rfl
  · cases hwhole
  · next hne _ hother =>
      obtain ⟨c, ds, rfl⟩ := List.exists_cons_of_ne_nil hne
      exact hother ds (by rw [hall c List.mem_cons_self])

/-- What is read behind an optional minus sign is an integer part and what may follow it. -/
theorem isWhole_and_isNumberTail
    {negative : Bool}
    {lexeme cs : List Char}
    {v : Json}
    (h : unsigned? negative lexeme cs = some v) :
    isWhole (cs.takeWhile isAsciiDigit) = true ∧
      isNumberTail (cs.dropWhile isAsciiDigit) = true := by
  simp only [unsigned?] at h
  split at h
  case isTrue hspelled => rwa [Bool.and_eq_true] at hspelled
  case isFalse => cases h

/-- A number begins with a digit behind its minus sign, and all that is no digit of it belongs to a
fraction or an exponent. -/
theorem parts_of_unsigned?
    {negative : Bool}
    {lexeme cs : List Char}
    {v : Json}
    (h : unsigned? negative lexeme cs = some v) :
    (∃ c ds, cs = c :: ds ∧ isAsciiDigit c = true) ∧
      (IsFractional cs ∧ v = .real (String.ofList lexeme) ∨
        IsDigits cs ∧ isWhole cs = true ∧
          v = if negative && cs = ['0'] then .real (String.ofList lexeme)
            else .int (if negative then -value cs else value cs)) := by
  obtain ⟨hwhole, htail⟩ := isWhole_and_isNumberTail h
  simp only [unsigned?, hwhole, htail, Bool.and_self, if_true] at h
  have hdigits : (cs.takeWhile isAsciiDigit).all isAsciiDigit = true :=
    List.all_takeWhile
  have hcs := List.takeWhile_append_dropWhile (p := isAsciiDigit) (l := cs)
  have hne : cs.takeWhile isAsciiDigit ≠ [] := by
    intro hnil
    rw [hnil] at hwhole
    cases hwhole
  constructor
  · obtain ⟨c, ds, htake⟩ := List.exists_cons_of_ne_nil hne
    rw [htake] at hdigits hcs
    exact ⟨c, ds ++ cs.dropWhile isAsciiDigit, hcs.symm,
      List.all_eq_true.mp hdigits c List.mem_cons_self⟩
  · by_cases hdrop : cs.dropWhile isAsciiDigit = []
    · rw [hdrop, List.append_nil] at hcs
      rw [hcs] at hdigits hwhole hne
      refine Or.inr ⟨⟨hne, hdigits⟩, hwhole, ?_⟩
      simp only [hdrop, hcs, List.isEmpty_nil, Bool.not_true, Bool.false_or] at h
      grind
    · have hfractional := isFractional_of_isNumberTail hdrop htail
      have hmem : ∀ c ∈ cs.dropWhile isAsciiDigit, c ∈ cs :=
        fun c hc => List.dropWhile_subset isAsciiDigit hc
      refine Or.inl ⟨hfractional.imp (hmem _) (Or.imp (hmem _) (hmem _)), ?_⟩
      simpa [hdrop] using h.symm

/-- Every number that is read is a spelling of its value. -/
theorem number_of_number?
    {cs : List Char}
    {v : Json}
    (h : number? cs = some v) :
    Number cs v := by
  unfold number? at h
  split at h
  · next ds =>
      obtain ⟨-, ⟨hfractional, rfl⟩ | ⟨hdigits, hwhole, rfl⟩⟩ := parts_of_unsigned? h
      · have hmem : ∀ c ∈ ds, c ∈ '-' :: ds := fun _ hc => List.mem_cons_of_mem _ hc
        exact .real (.inl rfl) (hfractional.imp (hmem _) (Or.imp (hmem _) (hmem _)))
      · by_cases hzero : ds = ['0']
        · subst hzero
          exact .minusZero
        · have hvalue := value_ne_zero_of_isWhole hdigits.2 hwhole hzero
          simpa [hzero] using Number.minus hdigits hvalue
  · obtain ⟨⟨c, ds, rfl, hc⟩, ⟨hfractional, rfl⟩ | ⟨hdigits, hwhole, rfl⟩⟩ := parts_of_unsigned? h
    · exact .real (.inr hc) hfractional
    · exact .digits hdigits

/-! ## The characters of a number -/

theorem isNumberChar_of_isAsciiDigit
    {c : Char}
    (hc : isAsciiDigit c = true) :
    isNumberChar c = true := by
  simp [isNumberChar, hc]

theorem isNumberChar_of_isExponent
    {cs : List Char}
    (h : isExponent cs = true) :
    ∀ c ∈ cs, isNumberChar c = true := by
  cases cs with
  | nil => nofun
  | cons c rest =>
      simp only [isExponent, Bool.and_eq_true, Bool.or_eq_true, decide_eq_true_eq,
        List.all_eq_true] at h
      obtain ⟨⟨hmark, -⟩, hdigits⟩ := h
      refine List.forall_mem_cons.mpr ⟨by rcases hmark with rfl | rfl <;> decide, ?_⟩
      split at hdigits
      -- a sign, or none, and then digits
      · exact List.forall_mem_cons.mpr
          ⟨by decide, fun d hd => isNumberChar_of_isAsciiDigit (hdigits d hd)⟩
      · exact List.forall_mem_cons.mpr
          ⟨by decide, fun d hd => isNumberChar_of_isAsciiDigit (hdigits d hd)⟩
      · exact fun d hd => isNumberChar_of_isAsciiDigit (hdigits d hd)

theorem isNumberChar_of_isNumberTail
    {cs : List Char}
    (h : isNumberTail cs = true) :
    ∀ c ∈ cs, isNumberChar c = true := by
  unfold isNumberTail at h
  split at h
  · next rest =>
    rw [Bool.and_eq_true] at h
    have hexponent := isNumberChar_of_isExponent h.2
    refine List.forall_mem_cons.mpr ⟨by decide, ?_⟩
    rw [← List.takeWhile_append_dropWhile (p := isAsciiDigit) (l := rest), List.forall_mem_append]
    exact ⟨fun d hd => isNumberChar_of_isAsciiDigit (List.mem_takeWhile_imp hd), hexponent⟩
  · exact isNumberChar_of_isExponent h

theorem isNumberChar_of_unsigned?
    {negative : Bool}
    {lexeme cs : List Char}
    {v : Json}
    (h : unsigned? negative lexeme cs = some v) :
    ∀ c ∈ cs, isNumberChar c = true := by
  have htail := isNumberChar_of_isNumberTail (isWhole_and_isNumberTail h).2
  rw [← List.takeWhile_append_dropWhile (p := isAsciiDigit) (l := cs), List.forall_mem_append]
  exact ⟨fun d hd => isNumberChar_of_isAsciiDigit (List.mem_takeWhile_imp hd), htail⟩

/-- The spelling of a number has no other characters than those that numbers may have. -/
theorem isNumberChar_of_number?
    {cs : List Char}
    {v : Json}
    (h : number? cs = some v) :
    ∀ c ∈ cs, isNumberChar c = true := by
  unfold number? at h
  split at h
  · exact List.forall_mem_cons.mpr ⟨by decide, isNumberChar_of_unsigned? h⟩
  · exact isNumberChar_of_unsigned? h

/-! ## Counters -/

/-- Spellings of numbers that no counter has. -/
inductive Unfit : List Char → Prop where
  | negative (cs : List Char) : Unfit ('-' :: cs)
  | fraction {cs : List Char} : '.' ∈ cs → Unfit cs
  | exponent {cs : List Char} : 'e' ∈ cs ∨ 'E' ∈ cs → Unfit cs
  | tooGreat {cs : List Char} : IsDigits cs → maxWord < value cs → Unfit cs

theorem IsFractional.unfit
    {cs : List Char}
    (h : IsFractional cs) :
    Unfit cs := by
  rcases h with hpoint | hexponent
  · exact .fraction hpoint
  · exact .exponent hexponent

/-- Digits alone spell no number with a sign, a fraction or an exponent. -/
theorem unfit_iff_of_isDigits
    {cs : List Char}
    (hcs : IsDigits cs) :
    Unfit cs ↔ maxWord < value cs := by
  have hmem : ∀ c ∈ cs, isAsciiDigit c = true := List.all_eq_true.mp hcs.2
  constructor
  · intro h
    cases h with
    | negative cs => exact absurd (hmem '-' List.mem_cons_self) (by decide)
    | fraction hpoint => exact absurd (hmem _ hpoint) (by decide)
    | exponent hexponent =>
        rcases hexponent with he | he <;> exact absurd (hmem _ he) (by decide)
    | tooGreat _ hvalue => exact hvalue
  · exact .tooGreat hcs

/-- A number is no counter exactly when it is negative, has a fraction or an exponent, or is too
great. -/
theorem word?_eq_none_iff
    {cs : List Char}
    {v : Json}
    (h : number? cs = some v) :
    word? v = none ↔ Unfit cs := by
  cases number_of_number? h with
  | digits hdigits =>
      rw [unfit_iff_of_isDigits hdigits, word?, toWord?]
      simp
  | @minus ds hdigits hvalue =>
      have hnegative : ¬ (0 ≤ -(value ds : Int) ∧ -(value ds : Int) ≤ maxWord) := by
        omega
      simp only [word?, toWord?, if_neg hnegative, true_iff]
      exact .negative ds
  | minusZero => exact iff_of_true rfl (.negative ['0'])
  | real _ hfractional => exact iff_of_true rfl hfractional.unfit

end Json
end AccountMigration
