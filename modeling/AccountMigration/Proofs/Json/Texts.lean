import AccountMigration.Proofs.Json.Marks
import Mathlib.Data.List.Forall2

/-!
# Texts of objects and arrays

The text of an object holds the texts of its members, and so on for arrays and items.  Every text
that reads as an object or an array has this form.

* `Json.Margins`: the white space around and inside of an object or an array.
* `Json.ValueText`, `Json.MemberText`, `Json.ObjectText` and `Json.ArrayText`: texts, together with
  what they read as.
* `Json.ofSymbols?_obj_iff` and `Json.ofSymbols?_arr_iff`: the texts that read as objects and as
  arrays.
-/

namespace AccountMigration
namespace Json

/-! ## White space -/

/-- White space only. -/
def IsSpacing
    (text : List Symbol) : Prop :=
  ∀ s ∈ text, ∃ c, s = some c ∧ isSpace c = true

/-- White space in front of a text does not show in its tokens. -/
theorem IsSpacing.lexed_append
    {text rest : List Symbol}
    {ts : List Token}
    (h : IsSpacing text)
    (hrest : Lexed rest ts) :
    Lexed (text ++ rest) ts := by
  induction text with
  | nil => exact hrest
  | cons s text ih =>
      rw [IsSpacing, List.forall_mem_cons] at h
      obtain ⟨⟨c, rfl, hspace⟩, htext⟩ := h
      exact .space hspace (ih htext)

theorem lexed_nil_iff
    {text : List Symbol} :
    Lexed text [] ↔ IsSpacing text := by
  constructor
  · intro h
    generalize hts : ([] : List Token) = ts at h
    induction h with
    | nil => nofun
    | space hspace _ ih => exact List.forall_mem_cons.mpr ⟨⟨_, rfl, hspace⟩, ih hts⟩
    | token => cases hts
  · intro h
    rw [← List.append_nil text]
    exact h.lexed_append .nil

/-- The white space in front of an object or an array, inside of it when it is empty, and behind
it. -/
structure Margins where
  before : List Symbol := []
  inside : List Symbol := []
  after : List Symbol := []
  before_spacing : IsSpacing before := by nofun
  inside_spacing : IsSpacing inside := by nofun
  after_spacing : IsSpacing after := by nofun

namespace Margins

/-- Parts with commas between them; white space when there are none. -/
def separated
    (m : Margins) :
    List (List Symbol) → List Symbol
  | [] => m.inside
  | parts => [some ','].intercalate parts

/-- Parts with commas between them and a mark at each end. -/
def around
    (m : Margins)
    (first last : Char)
    (parts : List (List Symbol)) : List Symbol :=
  m.before ++ some first :: (m.separated parts ++ some last :: m.after)

end Margins

/-- The text of an object or an array, up to what its parts are. -/
theorem lexed_around_iff
    {first last : Char}
    {t u : Token}
    (hfirst : Mark first t)
    (hlast : Mark last u)
    {text : List Symbol}
    {parts : List (List Token)} :
    Lexed text (t :: listed parts ++ [u]) ↔
      ∃ (m : Margins) (texts : List (List Symbol)),
        m.around first last texts = text ∧ List.Forall₂ Lexed texts parts := by
  rw [← List.nil_append (t :: listed parts ++ [u]), List.cons_append, lexed_mark_iff hfirst]
  constructor
  · rintro ⟨before, rest, rfl, hbefore, hrest⟩
    obtain ⟨inner, after, rfl, hinner, hafter⟩ := hrest.cut hlast
    rw [lexed_nil_iff] at hbefore hafter
    by_cases hparts : parts = []
    · subst hparts
      have hinside : IsSpacing inner := lexed_nil_iff.mp hinner
      exact ⟨⟨before, inner, after, hbefore, hinside, hafter⟩, [], rfl, .nil⟩
    · obtain ⟨texts, rfl, htexts⟩ := (lexed_listed_iff hparts).mp hinner
      refine ⟨⟨before, [], after, hbefore, by nofun, hafter⟩, texts, ?_, htexts⟩
      cases htexts with
      | nil => exact absurd rfl hparts
      | cons => rfl
  · rintro ⟨m, texts, rfl, htexts⟩
    refine ⟨_, _, rfl, lexed_nil_iff.mpr m.before_spacing, ?_⟩
    refine Lexed.join ?_ hlast (lexed_nil_iff.mpr m.after_spacing)
    cases htexts with
    | nil => exact lexed_nil_iff.mpr m.inside_spacing
    | cons hpart hrest =>
        exact (lexed_listed_iff (List.cons_ne_nil _ _)).mpr ⟨_, rfl, .cons hpart hrest⟩

/-! ## Texts with what they read as -/

/-- A text that reads as a value, with white space around it. -/
structure ValueText where
  text : List Symbol
  value : Json
  reads : ofSymbols? text = some value

/-- The text of a member: a name, a colon and a value. -/
structure MemberText where
  nameText : List Symbol
  name : Option String
  reads : ofSymbols? nameText = some (.str name)
  value : ValueText

namespace MemberText

/-- The symbols of a member. -/
def text
    (m : MemberText) : List Symbol :=
  m.nameText ++ some ':' :: m.value.text

/-- The name and the value of a member. -/
def member
    (m : MemberText) : Option String × Json :=
  (m.name, m.value.value)

end MemberText

/-- The text of an object. -/
structure ObjectText where
  margins : Margins
  members : List MemberText

/-- The symbols of an object. -/
def ObjectText.text
    (t : ObjectText) : List Symbol :=
  t.margins.around '\x7b' '\x7d' (t.members.map (·.text))

/-- The text of an array. -/
structure ArrayText where
  margins : Margins
  items : List ValueText

/-- The symbols of an array. -/
def ArrayText.text
    (t : ArrayText) : List Symbol :=
  t.margins.around '[' ']' (t.items.map (·.text))

/-! ## All texts of objects and arrays -/

/-- Lists that are related place by place come from one list when the related places do. -/
theorem forall₂_iff_exists_map
    {α β γ : Type}
    {r : α → β → Prop}
    {f : γ → α}
    {g : γ → β}
    (h : ∀ a b, r a b ↔ ∃ c, f c = a ∧ g c = b)
    {as : List α}
    {bs : List β} :
    List.Forall₂ r as bs ↔ ∃ cs : List γ, cs.map f = as ∧ cs.map g = bs := by
  constructor
  · intro hall
    induction hall with
    | nil => exact ⟨[], rfl, rfl⟩
    | cons hab _ ih =>
        obtain ⟨c, rfl, rfl⟩ := (h _ _).mp hab
        obtain ⟨cs, rfl, rfl⟩ := ih
        exact ⟨c :: cs, rfl, rfl⟩
  · rintro ⟨cs, rfl, rfl⟩
    rw [List.forall₂_map_left_iff, List.forall₂_map_right_iff, List.forall₂_same]
    exact fun c _ => (h _ _).mpr ⟨c, rfl, rfl⟩

section

variable {text : List Symbol}

theorem lexed_memberTokens_iff
    {m : Option String × Json} :
    Lexed text (memberTokens m) ↔ ∃ t : MemberText, t.text = text ∧ t.member = m := by
  rw [memberTokens, ← List.singleton_append, lexed_mark_iff .colon]
  constructor
  · rintro ⟨nameText, valueText, rfl, hname, hvalue⟩
    exact ⟨⟨nameText, m.1, ofSymbols?_eq_some_iff.mpr hname,
      ⟨valueText, m.2, ofSymbols?_eq_some_iff.mpr hvalue⟩⟩, rfl, rfl⟩
  · rintro ⟨t, rfl, rfl⟩
    exact ⟨t.nameText, t.value.text, rfl, ofSymbols?_eq_some_iff.mp t.reads,
      ofSymbols?_eq_some_iff.mp t.value.reads⟩

theorem lexed_tokens_iff
    {v : Json} :
    Lexed text (tokens v) ↔ ∃ t : ValueText, t.text = text ∧ t.value = v := by
  rw [← ofSymbols?_eq_some_iff]
  constructor
  · exact fun h => ⟨⟨text, v, h⟩, rfl, rfl⟩
  · rintro ⟨t, rfl, rfl⟩
    exact t.reads

/-- The texts that read as an object are its members between braces. -/
theorem ofSymbols?_obj_iff
    {members : List (Option String × Json)} :
    ofSymbols? text = some (.obj members) ↔
      ∃ t : ObjectText, t.text = text ∧ t.members.map (·.member) = members := by
  rw [ofSymbols?_eq_some_iff, tokens_obj, lexed_around_iff .beginObject .endObject]
  simp only [List.forall₂_map_right_iff,
    forall₂_iff_exists_map fun _ _ => lexed_memberTokens_iff]
  constructor
  · rintro ⟨margins, _, rfl, ms, rfl, rfl⟩
    exact ⟨⟨margins, ms⟩, rfl, rfl⟩
  · rintro ⟨t, rfl, rfl⟩
    exact ⟨t.margins, _, rfl, t.members, rfl, rfl⟩

/-- The texts that read as an array are its items between brackets. -/
theorem ofSymbols?_arr_iff
    {items : List Json} :
    ofSymbols? text = some (.arr items) ↔
      ∃ t : ArrayText, t.text = text ∧ t.items.map (·.value) = items := by
  rw [ofSymbols?_eq_some_iff, tokens_arr, lexed_around_iff .beginArray .endArray]
  simp only [List.forall₂_map_right_iff, forall₂_iff_exists_map fun _ _ => lexed_tokens_iff]
  constructor
  · rintro ⟨margins, _, rfl, items, rfl, rfl⟩
    exact ⟨⟨margins, items⟩, rfl, rfl⟩
  · rintro ⟨t, rfl, rfl⟩
    exact ⟨t.margins, _, rfl, t.items, rfl, rfl⟩

end

namespace ObjectText

/-- What the text of an object reads as. -/
def value
    (t : ObjectText) : Json :=
  .obj (t.members.map (·.member))

theorem reads
    (t : ObjectText) :
    ofSymbols? t.text = some t.value :=
  ofSymbols?_obj_iff.mpr ⟨t, rfl, rfl⟩

/-- The text of an object as the text of a value. -/
def toValueText
    (t : ObjectText) : ValueText :=
  ⟨t.text, t.value, t.reads⟩

end ObjectText

namespace ArrayText

/-- What the text of an array reads as. -/
def value
    (t : ArrayText) : Json :=
  .arr (t.items.map (·.value))

/-- The text of an array as the text of a value. -/
def toValueText
    (t : ArrayText) : ValueText :=
  ⟨t.text, t.value, ofSymbols?_arr_iff.mpr ⟨t, rfl, rfl⟩⟩

end ArrayText

/-! ## Texts that are written -/

/-- The text that is written for a value. -/
def ValueText.written
    (v : Json)
    (hv : v.Exact) : ValueText where
  text := (compact v).map some
  value := v
  reads := ofSymbols?_eq_some_iff.mpr (lex?_eq_some_iff.mp (spells_compact hv).lex?_eq)

/-- The text of a member, with the name as it is written. -/
def MemberText.written
    (name : Option String)
    (value : ValueText) : MemberText where
  nameText := (quote name).map some
  name := name
  reads := ofSymbols?_eq_some_iff.mpr (lex?_eq_some_iff.mp (spells_quote name).spells.lex?_eq)
  value := value

/-! ## Texts of numbers -/

/-- A text that is the spelling of a number, with white space around it. -/
structure ValueText.IsNumber
    (t : ValueText)
    (cs : List Char) : Prop where
  number : (number? cs).isSome = true
  text : ∃ before after, IsSpacing before ∧ IsSpacing after ∧
    t.text = before ++ (cs.map some ++ after)

theorem IsSpacing.endsNumber
    {text : List Symbol}
    (h : IsSpacing text) :
    EndsNumber text := by
  intro s hs
  obtain ⟨c, rfl, hspace⟩ := h s (List.mem_of_mem_head? hs)
  by_contra hc
  rw [Bool.not_eq_false] at hc
  rw [not_isSpace_of_isNumberChar hc] at hspace
  cases hspace

/-- The text of a number reads as this number. -/
theorem ValueText.IsNumber.number?_eq
    {t : ValueText}
    {cs : List Char}
    (h : t.IsNumber cs) :
    number? cs = some t.value := by
  obtain ⟨v, hv⟩ := Option.isSome_iff_exists.mp h.number
  obtain ⟨before, after, hbefore, hafter, htext⟩ := h.text
  have hnumber : Lexed (cs.map some ++ after) [.scalar v] := by
    cases cs with
    | nil => cases hv
    | cons c cs =>
        have hc := isNumberChar_of_number? hv c List.mem_cons_self
        exact .token (not_isSpace_of_isNumberChar hc) (.number hv) (fun _ => hafter.endsNumber)
          (lexed_nil_iff.mpr hafter)
  have hread : ofSymbols? t.text = some v := by
    rw [ofSymbols?_eq_some_iff, htext, (number_of_number? hv).tokens_eq]
    exact hbefore.lexed_append hnumber
  rw [hv, ← hread, t.reads]

end Json
end AccountMigration
