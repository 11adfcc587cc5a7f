import AccountMigration.Proofs.Json.Machine
import AccountMigration.Proofs.Json.Numbers

/-!
# Texts are cut at their marks

A token is read in the same way whatever stands behind it, only a number must come to its end.  So a
text can be cut wherever a mark stands between its tokens, and texts with a mark between them can be
joined.

* `Json.Token.Spelling`: what a token is spelled with.
* `Json.Lexed` and `Json.lex?_eq_some_iff`: the tokens of a text, one by one.
* `Json.Lexed.append` and `Json.Lexed.cut`: texts are joined and cut.
* `Json.lexed_listed_iff`: a text with commas is cut into its parts.
* `Json.ofSymbols?_eq_some_iff`: a text reads as a value when it has the tokens of the value.
-/

namespace AccountMigration
namespace Json

open Text

/-! ## The spelling of a token -/

/-- A character that is a token of its own. -/
inductive Mark : Char → Token → Prop where
  | beginArray : Mark '[' .beginArray
  | endArray : Mark ']' .endArray
  | beginObject : Mark '\x7b' .beginObject
  | endObject : Mark '\x7d' .endObject
  | comma : Mark ',' .comma
  | colon : Mark ':' .colon

/-- A word with its first character apart, and what it stands for. -/
inductive Word : Char → List Char → Json → Prop where
  | null : Word 'n' "ull".toList .null
  | true : Word 't' "rue".toList (.bool true)
  | false : Word 'f' "alse".toList (.bool false)

namespace Token

/-- A token that is spelled by a character and the symbols behind it. -/
inductive Spelling : Char → List Symbol → Token → Prop where
  | mark {c : Char} {t : Token} : Mark c t → Spelling c [] t
  | word {c : Char} {cs : List Char} {v : Json} :
      Word c cs v → Spelling c (cs.map some) (.scalar v)
  | number {c : Char} {cs : List Char} {v : Json} :
      number? (c :: cs) = some v → Spelling c (cs.map some) (.scalar v)
  | text {taken : List Symbol} {pieces : List Piece} :
      (∀ behind, stringBody? (taken ++ behind) = some (pieces, behind)) →
        Spelling '"' taken (.text ((assemble pieces).map String.ofList))

/-- A number, which goes on as long as it can. -/
def IsNumber : Token → Prop
  | .scalar (.int _) => True
  | .scalar (.real _) => True
  | _ => False

end Token

theorem Mark.not_isSpace
    {c : Char}
    {t : Token}
    (h : Mark c t) :
    isSpace c = false := by
  cases h <;> rfl

theorem Mark.not_isNumberChar
    {c : Char}
    {t : Token}
    (h : Mark c t) :
    isNumberChar c = false := by
  cases h <;> decide

theorem Number.isNumber
    {cs : List Char}
    {v : Json}
    (h : Number cs v) :
    (Token.scalar v).IsNumber := by
  cases h <;> trivial

theorem Number.tokens_eq
    {cs : List Char}
    {v : Json}
    (h : Number cs v) :
    tokens v = [.scalar v] := by
  cases h <;> rfl

/-- A string is read in the same way whatever stands behind it. -/
theorem exists_taken_of_stringBody?
    {s behind : List Symbol}
    {pieces : List Piece}
    (h : stringBody? s = some (pieces, behind)) :
    ∃ taken, s = taken ++ behind ∧
      ∀ other, stringBody? (taken ++ other) = some (pieces, other) := by
  fun_induction stringBody? s generalizing pieces behind with
  | case2 rest =>
      cases h
      exact ⟨[some '"'], rfl, fun _ => by simp [stringBody?]⟩
  | case3 a b c d rest code pieces' behind' hrest hcode ih =>
      cases h
      obtain ⟨taken, rfl, htaken⟩ := ih hrest
      refine ⟨some '\\' :: some 'u' :: a :: b :: c :: d :: taken, rfl, fun other => ?_⟩
      simp [stringBody?, htaken other, hcode]
  | case5 e rest _ c pieces' behind' hrest hescaped ih =>
      cases h
      obtain ⟨taken, rfl, htaken⟩ := ih hrest
      refine ⟨some '\\' :: some e :: taken, rfl, fun other => ?_⟩
      have he : e ≠ 'u' := by
        rintro rfl
        cases hescaped
      simp [stringBody?, htaken other, hescaped, he]
  | case8 rest pieces' behind' hrest ih =>
      cases h
      obtain ⟨taken, rfl, htaken⟩ := ih hrest
      exact ⟨none :: taken, rfl, fun other => by simp [stringBody?, htaken other]⟩
  | case11 c rest hquote _ _ hescape hcontrol pieces' behind' hrest ih =>
      cases h
      obtain ⟨taken, rfl, htaken⟩ := ih hrest
      refine ⟨some c :: taken, rfl, fun other => ?_⟩
      have hplain : ¬ c = '"' ∧ ¬ c = '\\' := ⟨hquote, hescape⟩
      simp [stringBody?, hplain, hcontrol, htaken other]
  | _ => cases h

theorem eq_append_of_afterWord?
    {word : List Char}
    {s behind : List Symbol}
    (h : afterWord? word s = some behind) :
    s = word.map some ++ behind := by
  fun_induction afterWord? word s with
  | case1 rest =>
      exact Option.some.inj h
  | case2 word d rest ih =>
      rw [ih h]
      rfl
  | case3 => cases h
  | case4 => cases h

theorem Word.tokenFrom?_eq
    {c : Char}
    {cs : List Char}
    {v : Json}
    (h : Word c cs v)
    (rest : List Symbol) :
    tokenFrom? c rest = (afterWord? cs rest).map fun behind => (.scalar v, behind) := by
  cases h <;> rfl

/-- A run of symbols that numbers are spelled with holds characters only. -/
theorem exists_chars_of_takeWhile
    (rest : List Symbol) :
    ∃ cs : List Char, rest.takeWhile isNumberSymbol = cs.map some := by
  induction rest with
  | nil =>
      exact ⟨[], rfl⟩
  | cons s rest ih =>
      obtain ⟨cs, htake⟩ := ih
      cases hs : isNumberSymbol s with
      | false =>
          exact ⟨[], List.takeWhile_cons_of_neg (by simp [hs])⟩
      | true =>
          cases s with
          | none => cases hs
          | some c =>
              exact ⟨c :: cs, by rw [List.takeWhile_cons_of_pos hs, htake, List.map_cons]⟩

theorem endsNumber_dropWhile
    (rest : List Symbol) :
    EndsNumber (rest.dropWhile isNumberSymbol) := by
  intro s hs
  have hnot := List.head?_dropWhile_not isNumberSymbol rest
  rwa [Option.mem_def.mp hs] at hnot

section TokenFrom

variable {c : Char} {rest taken behind : List Symbol} {t : Token}

/-- A spelling is read as its token; a number must come to its end. -/
theorem Token.Spelling.tokenFrom?_eq
    (h : Spelling c taken t)
    (hends : t.IsNumber → EndsNumber behind) :
    tokenFrom? c (taken ++ behind) = some (t, behind) := by
  cases h with
  | mark hmark => cases hmark <;> rfl
  | word hword => rw [hword.tokenFrom?_eq, afterWord?_append, Option.map_some]
  | number hnumber =>
      exact tokenFrom?_number hnumber (isNumberChar_of_number? hnumber)
        (hends (number_of_number? hnumber).isNumber)
  | text hlocal =>
      rw [tokenFrom?, hlocal]
      rfl

/-- A word is spelled by its characters. -/
theorem Word.exists_spelling
    {cs : List Char}
    {v : Json}
    (hword : Word c cs v)
    (h : (afterWord? cs rest).map (fun behind => (Token.scalar v, behind)) = some (t, behind)) :
    ∃ taken, rest = taken ++ behind ∧ Token.Spelling c taken t ∧
      (t.IsNumber → EndsNumber behind) := by
  obtain ⟨behind', hbehind, heq⟩ := Option.map_eq_some_iff.mp h
  cases heq
  exact ⟨_, eq_append_of_afterWord? hbehind, .word hword, by cases hword <;> nofun⟩

/-- A token that is read has a spelling in front of what is left. -/
theorem exists_spelling_of_tokenFrom?
    (h : tokenFrom? c rest = some (t, behind)) :
    ∃ taken, rest = taken ++ behind ∧ Token.Spelling c taken t ∧
      (t.IsNumber → EndsNumber behind) := by
  unfold tokenFrom? at h
  split at h
  case h_7 =>
    obtain ⟨⟨pieces, behind'⟩, hbody, heq⟩ := Option.map_eq_some_iff.mp h
    cases heq
    obtain ⟨taken, htaken, hlocal⟩ := exists_taken_of_stringBody? hbody
    exact ⟨taken, htaken, .text hlocal, nofun⟩
  case h_8 => exact Word.true.exists_spelling h
  case h_9 => exact Word.false.exists_spelling h
  case h_10 => exact Word.null.exists_spelling h
  case h_11 =>
    obtain ⟨v, hnumber, heq⟩ := Option.map_eq_some_iff.mp h
    cases heq
    obtain ⟨cs, htake⟩ := exists_chars_of_takeWhile rest
    have hreduce : (rest.takeWhile isNumberSymbol).reduceOption = cs := by
      rw [htake, List.reduceOption]
      simp
    rw [hreduce] at hnumber
    refine ⟨cs.map some, ?_, .number hnumber, fun _ => endsNumber_dropWhile rest⟩
    rw [← htake, List.takeWhile_append_dropWhile]
  -- the six marks take nothing but themselves
  all_goals
    cases h
    exact ⟨[], rfl, .mark (by constructor), nofun⟩

end TokenFrom

/-! ## The tokens of a text -/

/-- A text is the spellings of tokens with white space between them, and every number is followed by
something that cannot go on with it. -/
inductive Lexed : List Symbol → List Token → Prop where
  | nil : Lexed [] []
  | space {c : Char} {rest : List Symbol} {ts : List Token} :
      isSpace c = true → Lexed rest ts → Lexed (some c :: rest) ts
  | token {c : Char} {taken behind : List Symbol} {t : Token} {ts : List Token} :
      isSpace c = false → t.Spelling c taken → (t.IsNumber → EndsNumber behind) →
        Lexed behind ts → Lexed (some c :: (taken ++ behind)) (t :: ts)

section Lexed

variable {text a b : List Symbol} {ts us : List Token} {c : Char} {t : Token}

/-- The tokens that are read are those that the text spells. -/
theorem lex?_eq_some_iff :
    lex? text = some ts ↔ Lexed text ts := by
  constructor
  · intro h
    fun_induction lex? text generalizing ts with
    | case1 =>
        cases h
        exact .nil
    | case2 => cases h
    | case3 c rest hspace ih => exact .space hspace (ih h)
    | case4 => cases h
    | case5 c rest hspace t behind htoken hlength ih =>
        obtain ⟨us, hbehind, rfl⟩ := Option.map_eq_some_iff.mp h
        obtain ⟨taken, rfl, hspelling, hends⟩ := exists_spelling_of_tokenFrom? htoken
        exact .token (by simpa using hspace) hspelling hends (ih hbehind)
  · intro h
    induction h with
    | nil => exact lex?_nil
    | space hspace _ ih => rw [lex?_space hspace, ih]
    | token hspace hspelling hends _ ih =>
        rw [lex?_cons hspace (hspelling.tokenFrom?_eq hends), ih, Option.map_some]

theorem EndsNumber.append
    (ha : EndsNumber a)
    (hb : EndsNumber b) :
    EndsNumber (a ++ b) := by
  cases a with
  | nil => exact hb
  | cons s a => exact ha

theorem EndsNumber.of_append
    (h : EndsNumber (a ++ b)) :
    EndsNumber a := by
  cases a with
  | nil => nofun
  | cons s a => exact h

theorem Mark.endsNumber
    (h : Mark c t)
    (rest : List Symbol) :
    EndsNumber (some c :: rest) := by
  intro s hs
  obtain rfl : some c = s := by simpa using hs
  exact h.not_isNumberChar

/-- Two texts are joined where no number goes on. -/
theorem Lexed.append
    (ha : Lexed a ts)
    (hends : EndsNumber b)
    (hb : Lexed b us) :
    Lexed (a ++ b) (ts ++ us) := by
  induction ha with
  | nil => exact hb
  | space hspace _ ih => exact .space hspace ih
  | token hspace hspelling hnumber _ ih =>
      rw [List.cons_append, List.append_assoc]
      exact .token hspace hspelling (fun ht => (hnumber ht).append hends) ih

/-- Two texts with a mark between them are joined. -/
theorem Lexed.join
    (ha : Lexed a ts)
    (hmark : Mark c t)
    (hb : Lexed b us) :
    Lexed (a ++ some c :: b) (ts ++ t :: us) := by
  have hbehind : Lexed ([] ++ b) us := hb
  exact ha.append (hmark.endsNumber b)
    (.token hmark.not_isSpace (.mark hmark) (by cases hmark <;> nofun) hbehind)

/-- A mark is spelled by its character alone. -/
theorem Mark.eq_of_spelling
    (hmark : Mark c t)
    {d : Char}
    {taken : List Symbol}
    (hspelling : t.Spelling d taken) :
    d = c ∧ taken = [] := by
  cases hmark <;> cases hspelling with
  | mark h =>
      cases h
      exact ⟨rfl, rfl⟩

/-- A text is cut at a mark between its tokens. -/
theorem Lexed.cut
    (h : Lexed text (ts ++ t :: us))
    (hmark : Mark c t) :
    ∃ a b, text = a ++ some c :: b ∧ Lexed a ts ∧ Lexed b us := by
  generalize hall : ts ++ t :: us = all at h
  induction h generalizing ts with
  | nil => simp at hall
  | space hspace _ ih =>
      obtain ⟨a, b, rfl, ha, hb⟩ := ih hall
      exact ⟨_ :: a, b, rfl, .space hspace ha, hb⟩
  | token hspace hspelling hends hbehind ih =>
      cases ts with
      | nil =>
          cases hall
          obtain ⟨rfl, rfl⟩ := hmark.eq_of_spelling hspelling
          exact ⟨[], _, rfl, .nil, hbehind⟩
      | cons first ts =>
          obtain ⟨rfl, hrest⟩ := List.cons.inj hall
          obtain ⟨a, b, rfl, ha, hb⟩ := ih hrest
          have hends' := fun ht => (hends ht).of_append
          refine ⟨_ :: (_ ++ a), b, ?_, .token hspace hspelling hends' ha, hb⟩
          rw [List.cons_append, List.append_assoc]

theorem lexed_mark_iff
    (hmark : Mark c t) :
    Lexed text (ts ++ t :: us) ↔ ∃ a b, text = a ++ some c :: b ∧ Lexed a ts ∧ Lexed b us := by
  constructor
  · exact fun h => h.cut hmark
  · rintro ⟨a, b, rfl, ha, hb⟩
    exact ha.join hmark hb

/-- Texts with commas between them have the tokens of each of them, with commas between. -/
theorem lexed_listed_iff
    {parts : List (List Token)}
    (hparts : parts ≠ []) :
    Lexed text (listed parts) ↔
      ∃ texts, text = [some ','].intercalate texts ∧ List.Forall₂ Lexed texts parts := by
  induction parts generalizing text with
  | nil => exact absurd rfl hparts
  | cons part rest ih =>
      cases rest with
      | nil =>
          rw [listed, List.intercalate_singleton]
          constructor
          · intro h
            exact ⟨[text], List.intercalate_singleton.symm, .cons h .nil⟩
          · rintro ⟨texts, rfl, htexts⟩
            cases htexts with
            | cons h hnil =>
                cases hnil
                rwa [List.intercalate_singleton]
      | cons next rest =>
          rw [listed, List.intercalate_cons_cons, List.append_assoc, List.singleton_append,
            ← listed, lexed_mark_iff .comma]
          constructor
          · rintro ⟨a, b, rfl, ha, hb⟩
            obtain ⟨texts, rfl, htexts⟩ := (ih (List.cons_ne_nil _ _)).mp hb
            refine ⟨a :: texts, ?_, .cons ha htexts⟩
            cases htexts
            rw [List.intercalate_cons_cons, List.append_assoc, List.singleton_append]
          · rintro ⟨texts, rfl, htexts⟩
            obtain _ | ⟨hfirst, hrest⟩ := htexts
            refine ⟨_, _, ?_, hfirst, (ih (List.cons_ne_nil _ _)).mpr ⟨_, rfl, hrest⟩⟩
            cases hrest
            rw [List.intercalate_cons_cons, List.append_assoc, List.singleton_append]

/-- Every token of a text can stand in a text. -/
theorem Lexed.isProper
    (h : Lexed text ts) :
    ∀ t ∈ ts, t.IsProper := by
  induction h with
  | nil => nofun
  | space _ _ ih => exact ih
  | token _ hspelling _ _ ih =>
      refine List.forall_mem_cons.mpr ⟨?_, ih⟩
      cases hspelling with
      | mark hmark => cases hmark <;> trivial
      | word hword => cases hword <;> rfl
      | number hnumber => exact (number_of_number? hnumber).tokens_eq
      | text => trivial

/-- A text reads as a value exactly when its tokens are those of the value. -/
theorem ofSymbols?_eq_some_iff
    {v : Json} :
    ofSymbols? text = some v ↔ Lexed text (tokens v) := by
  rw [ofSymbols?, Option.bind_eq_some_iff]
  constructor
  · rintro ⟨ts, hlex, hread⟩
    have hlexed := lex?_eq_some_iff.mp hlex
    obtain rfl := (read?_eq_some_iff hlexed.isProper).mp hread
    exact hlexed
  · intro h
    exact ⟨tokens v, lex?_eq_some_iff.mpr h, read?_tokens v⟩

end Lexed

end Json
end AccountMigration
