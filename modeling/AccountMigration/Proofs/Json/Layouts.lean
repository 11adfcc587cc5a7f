import AccountMigration.Json.Printer
import AccountMigration.Proofs.Json.Tokens

/-!
# Both layouts of a value have its tokens

The compact and the indented text of a value are read as the same tokens, those of the value.  This
goes for values without fractions and exponents, since those numbers are kept as they are spelled.

* `Json.Exact`: values whose numbers are integers.
* `Json.Spells` and `Json.SpellsAnywhere`: a text that is read as given tokens.
* `Json.spells_compact` and `Json.spells_pretty`: the text of a value spells its tokens.
* `Json.exists_prettyMembers_gap`: the text around a member of an object.
-/

namespace AccountMigration
namespace Json

/-- Values whose numbers are integers. -/
inductive Exact : Json → Prop where
  | null : Exact .null
  | bool (b : Bool) : Exact (.bool b)
  | int (i : Int) : Exact (.int i)
  | str (s : Option String) : Exact (.str s)
  | arr {items : List Json} : (∀ v ∈ items, Exact v) → Exact (.arr items)
  | obj {members : List (Option String × Json)} :
      (∀ m ∈ members, Exact m.2) → Exact (.obj members)

/-- A text that is read as the tokens, unless the symbols behind it go on with a number. -/
def Spells
    (text : List Char)
    (ts : List Token) : Prop :=
  ∀ rest, EndsNumber rest → lex? (text.map some ++ rest) = (lex? rest).map (ts ++ ·)

/-- A text that is read as the tokens, whatever stands behind it. -/
def SpellsAnywhere
    (text : List Char)
    (ts : List Token) : Prop :=
  ∀ rest, lex? (text.map some ++ rest) = (lex? rest).map (ts ++ ·)

/-- A text in front of which a number ends. -/
def Separates
    (text : List Char) : Prop :=
  ∃ c cs, text = c :: cs ∧ isNumberChar c = false

section Spelling

variable {a b : List Char} {ts us : List Token}

theorem Separates.endsNumber
    (h : Separates a)
    (rest : List Symbol) :
    EndsNumber (a.map some ++ rest) := by
  obtain ⟨c, cs, rfl, hc⟩ := h
  intro s hs
  obtain rfl : some c = s := by simpa using hs
  exact hc

theorem SpellsAnywhere.spells
    (h : SpellsAnywhere a ts) :
    Spells a ts :=
  fun rest _ => h rest

theorem SpellsAnywhere.append
    (ha : SpellsAnywhere a ts)
    (hb : SpellsAnywhere b us) :
    SpellsAnywhere (a ++ b) (ts ++ us) := by
  intro rest
  rw [List.map_append, List.append_assoc, ha, hb, Option.map_map]
  simp [Function.comp_def]

/-- A text that may end in a number, and one in front of which a number ends. -/
theorem Spells.append
    (ha : Spells a ts)
    (hb : SpellsAnywhere b us)
    (hseparates : Separates b) :
    SpellsAnywhere (a ++ b) (ts ++ us) := by
  intro rest
  rw [List.map_append, List.append_assoc, ha _ (hseparates.endsNumber rest), hb, Option.map_map]
  simp [Function.comp_def]

theorem Spells.lex?_eq
    (h : Spells a ts) :
    lex? (a.map some) = some ts := by
  have hall := h [] (by simp [EndsNumber])
  rw [List.append_nil, lex?_nil, Option.map_some, List.append_nil] at hall
  exact hall

/-- One of the marks of the grammar. -/
theorem spells_mark
    {c : Char}
    {t : Token}
    (hc : isSpace c = false)
    (ht : ∀ rest, tokenFrom? c rest = some (t, rest)) :
    SpellsAnywhere [c] [t] :=
  fun rest => lex?_cons hc (ht rest)

theorem spells_quote
    (s : Option String) :
    SpellsAnywhere (quote s) [.text s] :=
  fun rest => lex?_quote rest s

theorem spells_beginArray :
    SpellsAnywhere ['['] [.beginArray] :=
  spells_mark (by decide) fun _ => rfl

theorem spells_endArray :
    SpellsAnywhere [']'] [.endArray] :=
  spells_mark (by decide) fun _ => rfl

theorem spells_beginObject :
    SpellsAnywhere ['\x7b'] [.beginObject] :=
  spells_mark (by decide) fun _ => rfl

theorem spells_endObject :
    SpellsAnywhere ['\x7d'] [.endObject] :=
  spells_mark (by decide) fun _ => rfl

theorem spells_comma :
    SpellsAnywhere [','] [.comma] :=
  spells_mark (by decide) fun _ => rfl

theorem spells_colon :
    SpellsAnywhere [':'] [.colon] :=
  spells_mark (by decide) fun _ => rfl

theorem spells_space
    {cs : List Char}
    (hcs : ∀ c ∈ cs, isSpace c = true) :
    SpellsAnywhere cs [] := by
  intro rest
  induction cs with
  | nil =>
      simp
  | cons c cs ih =>
      rw [List.map_cons, List.cons_append, lex?_space (hcs c List.mem_cons_self)]
      exact ih fun d hd => hcs d (List.mem_cons_of_mem c hd)

theorem spells_blank :
    SpellsAnywhere [' '] [] := by
  refine spells_space fun c hc => ?_
  rw [List.mem_singleton.mp hc]
  rfl

end Spelling

/-! ## The compact layout -/

theorem separates_moreItems
    (vs : List Json) :
    Separates ((moreItems vs).flatMap Token.write) := by
  cases vs with
  | nil => exact ⟨']', [], rfl, by decide⟩
  | cons v vs => exact ⟨',', _, rfl, by decide⟩

theorem separates_moreMembers
    (ms : List (Option String × Json)) :
    Separates ((moreMembers ms).flatMap Token.write) := by
  cases ms with
  | nil => exact ⟨'\x7d', [], rfl, by decide⟩
  | cons m ms => exact ⟨',', _, rfl, by decide⟩

theorem spells_moreItems
    {vs : List Json}
    (h : ∀ v ∈ vs, Spells (compact v) (tokens v)) :
    SpellsAnywhere ((moreItems vs).flatMap Token.write) (moreItems vs) := by
  induction vs with
  | nil =>
      exact spells_endArray
  | cons v vs ih =>
      have hrest := ih fun w hw => h w (List.mem_cons_of_mem v hw)
      have hitem := (h v List.mem_cons_self).append hrest (separates_moreItems vs)
      have hall := spells_comma.append hitem
      simpa [moreItems, Token.write, compact] using hall

theorem spells_moreMembers
    {ms : List (Option String × Json)}
    (h : ∀ m ∈ ms, Spells (compact m.2) (tokens m.2)) :
    SpellsAnywhere ((moreMembers ms).flatMap Token.write) (moreMembers ms) := by
  induction ms with
  | nil =>
      exact spells_endObject
  | cons m ms ih =>
      have hrest := ih fun w hw => h w (List.mem_cons_of_mem m hw)
      have hvalue := (h m List.mem_cons_self).append hrest (separates_moreMembers ms)
      have hall := spells_comma.append ((spells_quote m.1).append (spells_colon.append hvalue))
      simpa [moreMembers, Token.write, compact] using hall

/-- The compact text of a value spells its tokens. -/
theorem spells_compact
    {v : Json}
    (h : v.Exact) :
    Spells (compact v) (tokens v) := by
  induction h with
  | null => exact fun rest _ => by simpa [compact, tokens, Token.write] using lex?_null rest
  | bool b => exact fun rest _ => by simpa [compact, tokens, Token.write] using lex?_bool rest b
  | int i =>
      exact fun rest hrest => by
        simpa [compact, tokens, Token.write, writeScalar] using lex?_int i hrest
  | str s => simpa [compact, tokens, Token.write] using (spells_quote s).spells
  | @arr items _ ih =>
      cases items with
      | nil =>
          simpa [compact, tokens, Token.write] using
            (spells_beginArray.append spells_endArray).spells
      | cons v vs =>
          have hrest := spells_moreItems fun w hw => ih w (List.mem_cons_of_mem v hw)
          have hitem := (ih v List.mem_cons_self).append hrest (separates_moreItems vs)
          simpa [compact, tokens, Token.write] using (spells_beginArray.append hitem).spells
  | @obj members _ ih =>
      cases members with
      | nil =>
          simpa [compact, tokens, Token.write] using
            (spells_beginObject.append spells_endObject).spells
      | cons m ms =>
          have hrest := spells_moreMembers fun w hw => ih w (List.mem_cons_of_mem m hw)
          have hvalue := (ih m List.mem_cons_self).append hrest (separates_moreMembers ms)
          have hall := spells_beginObject.append
            ((spells_quote m.1).append (spells_colon.append hvalue))
          simpa [compact, tokens, Token.write] using hall.spells

/-! ## The indented layout -/

theorem spells_newLine
    (level : Nat) :
    SpellsAnywhere (newLine level) [] := by
  refine spells_space fun c hc => ?_
  rcases List.mem_cons.mp hc with rfl | hblank
  · decide
  · rw [List.eq_of_mem_replicate hblank]
    decide

theorem separates_prettyItems
    (level : Nat)
    (vs : List Json) :
    Separates (prettyItems level vs) := by
  cases vs with
  | nil => exact ⟨'\n', _, rfl, by decide⟩
  | cons v vs => exact ⟨',', _, rfl, by decide⟩

theorem separates_prettyMembers
    (level : Nat)
    (ms : List (Option String × Json)) :
    Separates (prettyMembers level ms) := by
  cases ms with
  | nil => exact ⟨'\n', _, rfl, by decide⟩
  | cons m ms => exact ⟨',', _, rfl, by decide⟩

theorem spells_prettyItems
    {level : Nat}
    {vs : List Json}
    (h : ∀ v ∈ vs, Spells (pretty (level + 1) v) (tokens v)) :
    SpellsAnywhere (prettyItems level vs) (moreItems vs) := by
  induction vs with
  | nil =>
      exact (spells_newLine level).append spells_endArray
  | cons v vs ih =>
      have hrest := ih fun w hw => h w (List.mem_cons_of_mem v hw)
      have hitem := (h v List.mem_cons_self).append hrest (separates_prettyItems level vs)
      have hall := spells_comma.append ((spells_newLine (level + 1)).append hitem)
      simpa [prettyItems, moreItems] using hall

theorem spells_prettyMembers
    {level : Nat}
    {ms : List (Option String × Json)}
    (h : ∀ m ∈ ms, Spells (pretty (level + 1) m.2) (tokens m.2)) :
    SpellsAnywhere (prettyMembers level ms) (moreMembers ms) := by
  induction ms with
  | nil =>
      exact (spells_newLine level).append spells_endObject
  | cons m ms ih =>
      have hrest := ih fun w hw => h w (List.mem_cons_of_mem m hw)
      have hvalue := (h m List.mem_cons_self).append hrest (separates_prettyMembers level ms)
      have hall := spells_comma.append ((spells_newLine (level + 1)).append
        ((spells_quote m.1).append (spells_colon.append (spells_blank.append hvalue))))
      simpa [prettyMembers, moreMembers] using hall

/-- The indented text of a value spells its tokens, at every level. -/
theorem spells_pretty
    {v : Json}
    (h : v.Exact)
    (level : Nat) :
    Spells (pretty level v) (tokens v) := by
  induction h generalizing level with
  | null => exact fun rest _ => by simpa [pretty, tokens] using lex?_null rest
  | bool b => exact fun rest _ => by simpa [pretty, tokens] using lex?_bool rest b
  | int i => exact fun rest hrest => by simpa [pretty, tokens, writeScalar] using lex?_int i hrest
  | str s => simpa [pretty, tokens] using (spells_quote s).spells
  | @arr items _ ih =>
      cases items with
      | nil => simpa [pretty, tokens] using (spells_beginArray.append spells_endArray).spells
      | cons v vs =>
          have hrest : SpellsAnywhere (prettyItems level vs) (moreItems vs) :=
            spells_prettyItems fun w hw => ih w (List.mem_cons_of_mem v hw) (level + 1)
          have hitem := (ih v List.mem_cons_self (level + 1)).append hrest
            (separates_prettyItems level vs)
          have hall := spells_beginArray.append ((spells_newLine (level + 1)).append hitem)
          simpa [pretty, tokens] using hall.spells
  | @obj members _ ih =>
      cases members with
      | nil => simpa [pretty, tokens] using (spells_beginObject.append spells_endObject).spells
      | cons m ms =>
          have hrest : SpellsAnywhere (prettyMembers level ms) (moreMembers ms) :=
            spells_prettyMembers fun w hw => ih w (List.mem_cons_of_mem m hw) (level + 1)
          have hvalue := (ih m List.mem_cons_self (level + 1)).append hrest
            (separates_prettyMembers level ms)
          have hall := spells_beginObject.append ((spells_newLine (level + 1)).append
            ((spells_quote m.1).append (spells_colon.append (spells_blank.append hvalue))))
          simpa [pretty, tokens] using hall.spells

/-- The indented text around a member of an object does not depend on the value of the member. -/
theorem exists_prettyMembers_gap
    (level : Nat)
    (before : List (Option String × Json))
    (name : Option String) :
    ∃ front : List Char, ∀ v after,
      prettyMembers level (before ++ (name, v) :: after) =
        front ++ pretty (level + 1) v ++ prettyMembers level after := by
  induction before with
  | nil =>
      refine ⟨',' :: newLine (level + 1) ++ quote name ++ [':', ' '], ?_⟩
      intro v after
      simp [prettyMembers]
  | cons m rest ih =>
      obtain ⟨front, hfront⟩ := ih
      refine ⟨',' :: newLine (level + 1) ++ quote m.1 ++ ':' :: ' ' :: pretty (level + 1) m.2
        ++ front, ?_⟩
      intro v after
      rw [List.cons_append, prettyMembers, hfront]
      simp

end Json
end AccountMigration
