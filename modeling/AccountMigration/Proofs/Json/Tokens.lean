import AccountMigration.Json.Lexer
import AccountMigration.Proofs.Text.Numeral
import Mathlib.Data.List.ReduceOption

/-!
# Tokens read back

What is written for a token is read as this token, whatever stands behind it; only a number must be
followed by a symbol that cannot go on with it.

* `stringBody?_escaped` and `assemble_of_denotes`: the two steps of reading a string.
* `number?_signed`: an integer is spelled without superfluous zeros, so it reads back.
* `lex?_quote`, `lex?_int`, `lex?_bool` and `lex?_null`: the tokens that hold something.
-/

namespace AccountMigration
namespace Json

open Text

/-! ## Strings -/

/-- A piece that stands for a character: the character itself, or the four digits of a control
character. -/
inductive Piece.Denotes : Piece → Char → Prop where
  | char (c : Char) : Denotes (.char c) c
  | unit {c : Char} : c.toNat < 0x20 → Denotes (.unit c.toNat) c

theorem assemble_unit_cons
    {code : Nat}
    (hcode : code < 0x20)
    (rest : List Piece) :
    assemble (.unit code :: rest) = (assemble rest).map (Char.ofNat code :: ·) := by
  have hhigh : Utf16.isHighSurrogate code = false := by
    simp only [Utf16.isHighSurrogate, Bool.and_eq_false_iff, decide_eq_false_iff_not]
    omega
  have hlow : Utf16.isLowSurrogate code = false := by
    simp only [Utf16.isLowSurrogate, Bool.and_eq_false_iff, decide_eq_false_iff_not]
    omega
  cases rest with
  | nil =>
      simp [assemble, hhigh, hlow]
  | cons piece rest =>
      cases piece <;> simp [assemble, hhigh, hlow]

/-- Pieces that stand for characters are put together to these. -/
theorem assemble_of_denotes
    {pieces : List Piece}
    {cs : List Char}
    (h : List.Forall₂ Piece.Denotes pieces cs) :
    assemble pieces = some cs := by
  induction h with
  | nil =>
      rfl
  | cons hpiece _ ih =>
      cases hpiece with
      | char c => rw [assemble, ih, Option.map_some]
      | unit hcode => rw [assemble_unit_cons hcode, ih, Option.map_some, Char.ofNat_toNat]

/-- The escape of a character is read as a piece that stands for it. -/
theorem stringBody?_escapeChar
    (c : Char) :
    ∃ piece : Piece, piece.Denotes c ∧ ∀ rest pieces behind,
      stringBody? rest = some (pieces, behind) →
      stringBody? ((escapeChar c).map some ++ rest) = some (piece :: pieces, behind) := by
  by_cases hshort : c = '"' ∨ c = '\\' ∨ c = '\x08' ∨ c = '\x0c' ∨ c = '\n' ∨ c = '\r' ∨ c = '\t'
  · refine ⟨.char c, .char c, fun rest pieces behind hrest => ?_⟩
    rcases hshort with rfl | rfl | rfl | rfl | rfl | rfl | rfl <;>
      simp [escapeChar, stringBody?, escaped?, hrest]
  · simp only [not_or] at hshort
    by_cases hcontrol : c.toNat < 0x20
    · refine ⟨.unit c.toNat, .unit hcontrol, fun rest pieces behind hrest => ?_⟩
      have hhigh : hexSymbol? (some (hexDigit (c.toNat / 16))) = some (c.toNat / 16) :=
        hexValue?_hexDigit (by omega)
      have hlow : hexSymbol? (some (hexDigit (c.toNat % 16))) = some (c.toNat % 16) :=
        hexValue?_hexDigit (by omega)
      have hzero : hexSymbol? (some '0') = some 0 := rfl
      have hvalue : c.toNat / 16 * 16 + c.toNat % 16 = c.toNat := by omega
      simp [escapeChar, hshort, hcontrol, stringBody?, hexUnit?, hzero, hhigh, hlow, hvalue, hrest]
    · refine ⟨.char c, .char c, fun rest pieces behind hrest => ?_⟩
      simp [escapeChar, hshort, hcontrol, stringBody?, hrest]

/-- What is written for the characters of a string is read up to the closing quote. -/
theorem stringBody?_escaped
    (cs : List Char)
    (rest : List Symbol) :
    ∃ pieces, List.Forall₂ Piece.Denotes pieces cs ∧
      stringBody? ((cs.flatMap escapeChar).map some ++ some '"' :: rest) = some (pieces, rest) := by
  induction cs with
  | nil =>
      exact ⟨[], .nil, by simp [stringBody?]⟩
  | cons c cs ih =>
      obtain ⟨pieces, hpieces, hbody⟩ := ih
      obtain ⟨piece, hpiece, hescape⟩ := stringBody?_escapeChar c
      refine ⟨piece :: pieces, .cons hpiece hpieces, ?_⟩
      rw [List.flatMap_cons, List.map_append, List.append_assoc]
      exact hescape _ _ _ hbody

/-! ## Numbers -/

/-- Symbols that cannot go on with a number. -/
def EndsNumber
    (rest : List Symbol) : Prop :=
  ∀ s ∈ rest.head?, isNumberSymbol s = false

theorem isWhole_digits
    (n : Nat) :
    isWhole (Numeral.digits n) = true := by
  by_cases hn : n = 0
  · subst hn
    decide
  · have hhead := Numeral.head?_digits_ne_zero hn
    have hne := Numeral.digits_ne_nil n
    unfold isWhole
    split <;> simp_all

theorem unsigned?_digits
    {negative : Bool}
    {n : Nat}
    (lexeme : List Char)
    (hzero : negative = true → n ≠ 0) :
    unsigned? negative lexeme (Numeral.digits n) =
      some (.int (if negative then -n else n)) := by
  have hall : ∀ c ∈ Numeral.digits n, isAsciiDigit c = true :=
    fun c hc => Numeral.isAsciiDigit_of_mem_digits hc
  have hwhole : (Numeral.digits n).takeWhile isAsciiDigit = Numeral.digits n :=
    List.takeWhile_eq_self_iff.mpr hall
  have htail : (Numeral.digits n).dropWhile isAsciiDigit = [] :=
    List.dropWhile_eq_nil_iff.mpr hall
  have hminus : (negative && decide (Numeral.digits n = ['0'])) = false := by
    cases negative with
    | false => rfl
    | true =>
        have hhead := Numeral.head?_digits_ne_zero (hzero rfl)
        simp only [Bool.true_and, decide_eq_false_iff_not]
        intro hdigits
        exact hhead (by rw [hdigits]; rfl)
  simp only [unsigned?, hwhole, htail, isWhole_digits, isNumberTail, isExponent, hminus,
    Bool.and_self, if_true, List.isEmpty_nil, Bool.not_true, Bool.or_self, Numeral.value_digits]
  cases negative <;> rfl

/-- An integer reads back. -/
theorem number?_signed
    (i : Int) :
    number? (Numeral.signed i) = some (.int i) := by
  unfold Numeral.signed
  split
  · rename_i hneg
    rw [number?, unsigned?_digits _ (fun _ => by omega), if_pos rfl]
    congr 2
    omega
  · rename_i hpos
    obtain ⟨c, cs, hdigits⟩ := List.exists_cons_of_ne_nil (Numeral.digits_ne_nil i.natAbs)
    have hplain : c ≠ '-' := by
      rintro rfl
      have hminus := Numeral.isAsciiDigit_of_mem_digits (hdigits ▸ List.mem_cons_self)
      exact absurd hminus (by decide)
    have hread := @unsigned?_digits false i.natAbs (Numeral.digits i.natAbs) (by simp)
    rw [hdigits] at hread ⊢
    rw [number?, hread]
    · congr 2
      simp
      omega
    · intro rest hrest
      exact hplain (List.cons.inj hrest).1

theorem isNumberChar_of_mem_signed
    {i : Int}
    {c : Char}
    (hc : c ∈ Numeral.signed i) :
    isNumberChar c = true := by
  unfold Numeral.signed at hc
  split at hc
  · rcases List.mem_cons.mp hc with rfl | hdigit
    · decide
    · simp [isNumberChar, Numeral.isAsciiDigit_of_mem_digits hdigit]
  · simp [isNumberChar, Numeral.isAsciiDigit_of_mem_digits hc]

theorem not_isSpace_of_isNumberChar
    {c : Char}
    (hc : isNumberChar c = true) :
    isSpace c = false := by
  by_contra hspace
  simp only [isSpace, Bool.not_eq_false, Bool.or_eq_true, decide_eq_true_eq] at hspace
  rcases hspace with ((rfl | rfl) | rfl) | rfl <;> exact absurd hc (by decide)

/-- A number takes all symbols that can belong to it. -/
theorem tokenFrom?_number
    {c : Char}
    {cs : List Char}
    {v : Json}
    (hnumber : number? (c :: cs) = some v)
    (hchars : ∀ d ∈ c :: cs, isNumberChar d = true)
    {rest : List Symbol}
    (hrest : EndsNumber rest) :
    tokenFrom? c (cs.map some ++ rest) = some (.scalar v, rest) := by
  have hsymbols : ∀ s ∈ cs.map some, isNumberSymbol s = true := by
    intro s hs
    obtain ⟨d, hd, rfl⟩ := List.mem_map.mp hs
    exact hchars d (List.mem_cons_of_mem c hd)
  have htake : ((cs.map some ++ rest).takeWhile isNumberSymbol).reduceOption = cs := by
    rw [takeWhile_append_of_head? hsymbols hrest, List.reduceOption]
    simp
  have hdrop : (cs.map some ++ rest).dropWhile isNumberSymbol = rest :=
    dropWhile_append_of_head? hsymbols hrest
  have hc := hchars c List.mem_cons_self
  unfold tokenFrom?
  split
  -- the characters that begin other tokens cannot begin a number
  all_goals first
    | exact absurd hc (by decide)
    | simp only [htake, hdrop, hnumber, Option.map_some]

/-! ## Tokens -/

theorem lex?_nil :
    lex? [] = some [] := by
  rw [lex?]

theorem lex?_space
    {c : Char}
    (hc : isSpace c = true)
    (rest : List Symbol) :
    lex? (some c :: rest) = lex? rest := by
  rw [lex?, if_pos hc]

/-- A token that can be read is the first of all tokens. -/
theorem lex?_cons
    {c : Char}
    {rest behind : List Symbol}
    {t : Token}
    (hc : isSpace c = false)
    (htoken : tokenFrom? c rest = some (t, behind)) :
    lex? (some c :: rest) = (lex? behind).map (t :: ·) := by
  rw [lex?, if_neg (by simp [hc])]
  split
  · rename_i hnone
    rw [htoken] at hnone
    cases hnone
  · rename_i t' behind' hsome
    rw [htoken] at hsome
    cases hsome
    rfl

section Tokens

variable (rest : List Symbol)

theorem lex?_quote
    (s : Option String) :
    lex? ((quote s).map some ++ rest) = (lex? rest).map (.text s :: ·) := by
  cases s with
  | none =>
      -- what is no text is written as half of a surrogate pair, and half a pair is no text
      have hbody : stringBody? ("\\ud800\"".toList.map some ++ rest) =
          some ([.unit 0xD800], rest) := by
        simp [stringBody?, hexUnit?, hexSymbol?, hexValue?]
      have hlone : assemble [.unit 0xD800] = none := by
        decide
      have hread : tokenFrom? '"' ("\\ud800\"".toList.map some ++ rest) =
          some (.text none, rest) := by
        rw [tokenFrom?, hbody]
        simp only [Option.map_some, hlone, Option.map_none]
      exact lex?_cons (by decide) hread
  | some s =>
      obtain ⟨pieces, hpieces, hbody⟩ := stringBody?_escaped s.toList rest
      refine lex?_cons (by decide) ?_
      rw [tokenFrom?]
      simp [hbody, assemble_of_denotes hpieces]

theorem afterWord?_append
    (word : List Char) :
    afterWord? word (word.map some ++ rest) = some rest := by
  induction word with
  | nil =>
      cases rest <;> rfl
  | cons c word ih =>
      rw [List.map_cons, List.cons_append, afterWord?, if_pos rfl, ih]

theorem lex?_null :
    lex? ((writeScalar .null).map some ++ rest) = (lex? rest).map (.scalar .null :: ·) := by
  refine lex?_cons (c := 'n') (by decide) ?_
  exact congrArg (Option.map _) (afterWord?_append rest "ull".toList)

theorem lex?_bool
    (b : Bool) :
    lex? ((writeScalar (.bool b)).map some ++ rest) =
      (lex? rest).map (.scalar (.bool b) :: ·) := by
  cases b with
  | true =>
      refine lex?_cons (c := 't') (by decide) ?_
      exact congrArg (Option.map _) (afterWord?_append rest "rue".toList)
  | false =>
      refine lex?_cons (c := 'f') (by decide) ?_
      exact congrArg (Option.map _) (afterWord?_append rest "alse".toList)

/-- An integer reads back when the symbols behind it cannot go on with it. -/
theorem lex?_int
    (i : Int)
    {rest : List Symbol}
    (hrest : EndsNumber rest) :
    lex? ((Numeral.signed i).map some ++ rest) = (lex? rest).map (.scalar (.int i) :: ·) := by
  have hread := number?_signed i
  have hchars : ∀ c ∈ Numeral.signed i, isNumberChar c = true :=
    fun c hc => isNumberChar_of_mem_signed hc
  cases hsigned : Numeral.signed i with
  | nil =>
      rw [hsigned] at hread
      cases hread
  | cons c cs =>
      rw [hsigned] at hread hchars
      exact lex?_cons (not_isSpace_of_isNumberChar (hchars c List.mem_cons_self))
        (tokenFrom?_number hread hchars hrest)

end Tokens

end Json
end AccountMigration
