import AccountMigration.Text.Blank
import AccountMigration.Text.Numeral
import Mathlib.Algebra.Group.Nat.Defs
import Mathlib.Data.List.Basic
import Mathlib.Data.List.TakeWhile

/-!
# Digits of a number

What a number is written with: ASCII digits, no superfluous zero in front unless a width is asked
for, and then as many zeros as fill it.

* `Numeral.head?_digits_ne_zero`: the first digit is a zero only for the number zero.
* `Numeral.value_padded` and `Numeral.length_padded`: zeros in front fill the width and leave the
  value as it is.
* `takeWhile_append_of_head?` and `dropWhile_append_of_head?`: a run of characters that ends where
  something else begins.
-/

namespace AccountMigration

section Run

variable {α : Type} {p : α → Bool} {run rest : List α} (hrun : ∀ a ∈ run, p a = true)
  (hrest : ∀ a ∈ rest.head?, p a = false)
include hrun hrest

theorem takeWhile_append_of_head? :
    (run ++ rest).takeWhile p = run := by
  rw [List.takeWhile_append_of_pos hrun]
  cases rest with
  | nil =>
      rw [List.takeWhile_nil, List.append_nil]
  | cons a rest =>
      rw [List.takeWhile_cons_of_neg (by simpa using hrest a rfl), List.append_nil]

theorem dropWhile_append_of_head? :
    (run ++ rest).dropWhile p = rest := by
  rw [List.dropWhile_append_of_pos hrun]
  cases rest with
  | nil =>
      rfl
  | cons a rest =>
      rw [List.dropWhile_cons_of_neg (by simpa using hrest a rfl)]

end Run

namespace Text

/-- A digit is no white space. -/
theorem isBlank_of_isAsciiDigit
    {c : Char}
    (hc : isAsciiDigit c = true) :
    isBlank c = false := by
  have hdigit : '0' ≤ c ∧ c ≤ '9' := by
    simpa [isAsciiDigit] using hc
  have lower : 48 ≤ c.toNat := hdigit.1
  have upper : c.toNat ≤ 57 := hdigit.2
  simp [isBlank, blankRanges, CodeRange.contains]
  omega

end Text

namespace Numeral

open Text

theorem isAsciiDigit_of_mem_digits
    {n : Nat}
    {c : Char}
    (hc : c ∈ digits n) :
    isAsciiDigit c = true := by
  have hdigit : c.isDigit = true :=
    Nat.isDigit_of_mem_toDigits (by decide) (Nat.le_refl 10) hc
  simpa [isAsciiDigit, Char.isDigit, Char.le_def] using hdigit

/-- The digits of a number do not begin with a zero, unless the number is zero. -/
theorem head?_digits_ne_zero
    {n : Nat}
    (hn : n ≠ 0) :
    (digits n).head? ≠ some '0' := by
  induction n using Nat.strongRecOn with
  | ind n ih =>
      unfold digits
      rcases Nat.lt_or_ge n 10 with hlt | hge
      · rw [Nat.toDigits_of_lt_base hlt]
        have hall : ∀ m < 10, m ≠ 0 → [m.digitChar].head? ≠ some '0' := by decide
        exact hall n hlt hn
      · have hfront := ih (n / 10) (by omega) (by omega)
        rw [Nat.toDigits_of_base_le (by decide) hge, List.head?_append_of_ne_nil]
        · exact hfront
        · exact digits_ne_nil (n / 10)

/-! ## Numbers of a given width -/

section Padded

variable (width n : Nat)

theorem isAsciiDigit_of_mem_padded
    {c : Char}
    (hc : c ∈ padded width n) :
    isAsciiDigit c = true := by
  rcases List.mem_append.mp hc with hzero | hdigit
  · rw [List.eq_of_mem_replicate hzero]
    decide
  · exact isAsciiDigit_of_mem_digits hdigit

theorem padded_ne_nil :
    padded width n ≠ [] :=
  List.append_ne_nil_of_right_ne_nil _ (digits_ne_nil n)

/-- Zeros in front do not change the value. -/
@[simp] theorem value_padded :
    value (padded width n) = n := by
  rw [value, padded, Nat.ofDigitChars_append, Nat.ofDigitChars_replicate_zero]
  exact value_digits n

/-- A number that is not too great has exactly the digits of the width. -/
theorem length_padded
    (hwidth : 0 < width)
    (hn : n < 10 ^ width) :
    (padded width n).length = width := by
  have hdigits : (digits n).length ≤ width :=
    (Nat.length_toDigits_le_iff (by decide) hwidth).mpr hn
  rw [padded, List.length_append, List.length_replicate, Nat.sub_add_cancel hdigits]

end Padded

end Numeral
end AccountMigration
