import AccountMigration.Proofs.Text.Numeral

/-!
# Numerals with a sign

A numeral is a run of ASCII digits, at least one, that may have a sign in front of it.  Zeros in
front of the other digits change nothing.

* `Numeral.Denotes`: the integer that a numeral stands for.
* `Numeral.int?_eq_some_iff` and `Numeral.denotes_signed`: numerals are read and written.
* `Numeral.toInt32?_eq_some_iff`: integers of 32 bits.
* `Numeral.IsZero` and `Numeral.natUpTo?_eq_zero_iff`: the numerals without a minus sign that stand
  for zero.
-/

namespace AccountMigration
namespace Numeral

open Text

/-- One or more ASCII digits. -/
def IsDigits
    (cs : List Char) : Prop :=
  cs ≠ [] ∧ cs.all isAsciiDigit = true

/-- The integer that digits with an optional sign stand for. -/
inductive Denotes : List Char → Int → Prop
  | unsigned
      {cs : List Char}
      (hcs : IsDigits cs) :
      Denotes cs (value cs)
  | plus
      {cs : List Char}
      (hcs : IsDigits cs) :
      Denotes ('+' :: cs) (value cs)
  | minus
      {cs : List Char}
      (hcs : IsDigits cs) :
      Denotes ('-' :: cs) (-(value cs))

/-- Zeros, at least one, that may have a plus sign in front of them. -/
def IsZero
    (cs : List Char) : Prop :=
  ∃ n, cs = List.replicate (n + 1) '0' ∨ cs = '+' :: List.replicate (n + 1) '0'

theorem nat?_eq_some_iff
    {cs : List Char}
    {n : Nat} :
    nat? cs = some n ↔ IsDigits cs ∧ value cs = n := by
  simp [nat?, IsDigits]

/-- What begins with a sign is no run of digits. -/
theorem IsDigits.head_isAsciiDigit
    {c : Char}
    {cs : List Char}
    (hcs : IsDigits (c :: cs)) :
    isAsciiDigit c = true :=
  List.all_eq_true.mp hcs.2 c List.mem_cons_self

theorem isDigits_digits
    (n : Nat) :
    IsDigits (digits n) :=
  ⟨digits_ne_nil n, List.all_eq_true.mpr fun _ hc => isAsciiDigit_of_mem_digits hc⟩

section Signed

variable {cs : List Char} {i : Int}

/-- Numerals are read as what they stand for. -/
theorem int?_eq_some_iff :
    int? cs = some i ↔ Denotes cs i := by
  constructor
  · intro hread
    unfold int? at hread
    split at hread
    all_goals
      obtain ⟨n, hn, rfl⟩ := Option.map_eq_some_iff.mp hread
      obtain ⟨hdigits, rfl⟩ := nat?_eq_some_iff.mp hn
    · exact .plus hdigits
    · exact .minus hdigits
    · exact .unsigned hdigits
  · intro hdenotes
    cases hdenotes with
    | plus hdigits =>
        exact Option.map_eq_some_iff.mpr ⟨_, nat?_eq_some_iff.mpr ⟨hdigits, rfl⟩, rfl⟩
    | minus hdigits =>
        exact Option.map_eq_some_iff.mpr ⟨_, nat?_eq_some_iff.mpr ⟨hdigits, rfl⟩, rfl⟩
    | unsigned hdigits =>
        unfold int?
        split
        · exact absurd hdigits.head_isAsciiDigit (by decide)
        · exact absurd hdigits.head_isAsciiDigit (by decide)
        · exact Option.map_eq_some_iff.mpr ⟨_, nat?_eq_some_iff.mpr ⟨hdigits, rfl⟩, rfl⟩

/-- An integer is written as a numeral of itself. -/
theorem denotes_signed
    (i : Int) :
    Denotes (signed i) i := by
  unfold signed
  split
  · have hminus := Denotes.minus (isDigits_digits i.natAbs)
    rw [value_digits] at hminus
    rwa [show -(i.natAbs : Int) = i by omega] at hminus
  · have hunsigned := Denotes.unsigned (isDigits_digits i.natAbs)
    rw [value_digits] at hunsigned
    rwa [show (i.natAbs : Int) = i by omega] at hunsigned

/-- A numeral is made of digits and signs. -/
theorem Denotes.mem
    {c : Char}
    (hdenotes : Denotes cs i)
    (hc : c ∈ cs) :
    c = '+' ∨ c = '-' ∨ isAsciiDigit c = true := by
  cases hdenotes with
  | unsigned hdigits =>
      exact .inr (.inr (List.all_eq_true.mp hdigits.2 c hc))
  | plus hdigits =>
      rcases List.mem_cons.mp hc with rfl | hrest
      · exact .inl rfl
      · exact .inr (.inr (List.all_eq_true.mp hdigits.2 c hrest))
  | minus hdigits =>
      rcases List.mem_cons.mp hc with rfl | hrest
      · exact .inr (.inl rfl)
      · exact .inr (.inr (List.all_eq_true.mp hdigits.2 c hrest))

theorem Denotes.ne_nil
    (hdenotes : Denotes cs i) :
    cs ≠ [] := by
  cases hdenotes with
  | unsigned hdigits =>
      exact hdigits.1
  | plus | minus =>
      exact List.cons_ne_nil _ _

/-- There are no blanks in a numeral. -/
theorem Denotes.not_isBlank
    (hdenotes : Denotes cs i) :
    ∀ c ∈ cs, isBlank c = false := by
  intro c hc
  rcases hdenotes.mem hc with rfl | rfl | hdigit
  · decide
  · decide
  · exact isBlank_of_isAsciiDigit hdigit

end Signed

/-- An integer of 32 bits is the value of one such integer. -/
theorem toInt32?_eq_some_iff
    {i : Int}
    {n : Int32} :
    toInt32? i = some n ↔ i = n.toInt := by
  unfold toInt32?
  split
  · next hrange =>
    have hvalue : (Int32.ofInt i).toInt = i :=
      Int32.toInt_ofInt_of_le hrange.1 (Int.lt_of_le_sub_one hrange.2)
    rw [Option.some_inj, ← Int32.toInt_inj, hvalue]
  · next hrange =>
    simp only [reduceCtorEq, false_iff]
    rintro rfl
    exact hrange ⟨n.minValue_le_toInt, n.toInt_le⟩

section Zero

variable {cs : List Char}

/-- Digits have the value zero when all of them are zeros. -/
theorem value_eq_zero_iff
    (hcs : cs.all isAsciiDigit = true) :
    value cs = 0 ↔ ∀ c ∈ cs, c = '0' := by
  suffices h : ∀ start, Nat.ofDigitChars 10 cs start = 0 ↔ start = 0 ∧ ∀ c ∈ cs, c = '0' by
    simpa [value] using h 0
  induction cs with
  | nil =>
      simp
  | cons c rest ih =>
      intro start
      rw [List.all_cons, Bool.and_eq_true] at hcs
      have hdigit : '0' ≤ c ∧ c ≤ '9' := by
        simpa [isAsciiDigit] using hcs.1
      have lower : '0'.toNat ≤ c.toNat := hdigit.1
      have hzero : c.toNat - '0'.toNat = 0 ↔ c = '0' := by
        rw [← Char.toNat_inj, Nat.sub_eq_zero_iff_le]
        exact ⟨fun upper => Nat.le_antisymm upper lower, Nat.le_of_eq⟩
      have hten : 10 * start = 0 ↔ start = 0 := by
        omega
      rw [Nat.ofDigitChars_cons, ih hcs.2, List.forall_mem_cons, Nat.add_eq_zero_iff, hten, hzero,
        and_assoc]

theorem digits_of_zero_iff :
    IsDigits cs ∧ value cs = 0 ↔ ∃ n, cs = List.replicate (n + 1) '0' := by
  constructor
  · rintro ⟨⟨hne, hdigits⟩, hvalue⟩
    refine ⟨cs.length - 1, List.eq_replicate_iff.mpr ⟨?_, (value_eq_zero_iff hdigits).mp hvalue⟩⟩
    have := List.length_pos_of_ne_nil hne
    omega
  · rintro ⟨n, rfl⟩
    have hdigits : (List.replicate (n + 1) '0').all isAsciiDigit = true := by
      simp [isAsciiDigit]
    refine ⟨⟨List.cons_ne_nil _ _, hdigits⟩, (value_eq_zero_iff hdigits).mpr ?_⟩
    exact fun c hc => List.eq_of_mem_replicate hc

/-- Whatever the limit, zero is read from its numerals only. -/
theorem natUpTo?_eq_zero_iff
    {limit : Nat} :
    natUpTo? limit cs = some 0 ↔ IsZero cs := by
  have hzero : ∀ ds, (nat? ds).filter (fun n => n ≤ limit) = some 0 ↔
      ∃ n, ds = List.replicate (n + 1) '0' := by
    intro ds
    rw [Option.filter_eq_some_iff, nat?_eq_some_iff, digits_of_zero_iff]
    simp
  unfold natUpTo?
  split
  · next rest =>
    rw [hzero, IsZero]
    simp [List.replicate_succ]
  · next hplus =>
    rw [hzero, IsZero]
    constructor
    · rintro ⟨n, hn⟩
      exact ⟨n, .inl hn⟩
    · rintro ⟨n, hn | hn⟩
      · exact ⟨n, hn⟩
      · exact absurd hn (hplus _)

/-- A blank text is no numeral. -/
theorem natUpTo?_of_blank
    (limit : Nat)
    (hcs : cs.all isBlank = true) :
    natUpTo? limit cs = none := by
  have hnone : nat? cs = none := by
    cases cs with
    | nil =>
        rfl
    | cons c rest =>
        have hblank : isBlank c = true := List.all_eq_true.mp hcs c List.mem_cons_self
        rw [Option.eq_none_iff_forall_ne_some]
        intro n hn
        have hdigit := (nat?_eq_some_iff.mp hn).1.head_isAsciiDigit
        rw [isBlank_of_isAsciiDigit hdigit] at hblank
        cases hblank
  unfold natUpTo?
  split
  · exact absurd (List.all_eq_true.mp hcs '+' List.mem_cons_self) (by decide)
  · rw [hnone, Option.filter_none]

end Zero

end Numeral
end AccountMigration
