import AccountMigration.Json.Reader
import AccountMigration.Proofs.Json.Layouts
import AccountMigration.Proofs.Text.Utf8

/-!
# Values read back from their texts

The machine that reads tokens comes from those of a value to this value.  So a value reads back from
each of its texts, and from the bytes of these.

* `Json.run?_tokens`: the machine takes the tokens of a value wherever a value may begin.
* `Json.ReadsAs`: a text that reads as a value, also from its bytes.
* `Json.readsAs_toText` and `Json.readsAs_toPrettyText`: the texts of a value read as this value.
-/

namespace AccountMigration
namespace Json

open State

/-- The tokens of a value begin with one that ends no array. -/
theorem exists_tokens_eq_cons
    (v : Json) :
    ∃ t ts, tokens v = t :: ts ∧ t ≠ .endArray := by
  cases v with
  | null => exact ⟨_, _, rfl, by nofun⟩
  | bool b => exact ⟨_, _, rfl, by nofun⟩
  | int i => exact ⟨_, _, rfl, by nofun⟩
  | real lexeme => exact ⟨_, _, rfl, by nofun⟩
  | str s => exact ⟨_, _, rfl, by nofun⟩
  | arr items => cases items <;> exact ⟨_, _, rfl, by nofun⟩
  | obj members => cases members <;> exact ⟨_, _, rfl, by nofun⟩

/-- Where an array may begin or end, its first item is read as any value. -/
theorem run?_firstItem
    (v : Json)
    (frames : List Frame)
    (us : List Token) :
    run? (.firstItem frames) (tokens v ++ us) =
      run? (.value (.items [] :: frames)) (tokens v ++ us) := by
  obtain ⟨t, ts, htokens, ht⟩ := exists_tokens_eq_cons v
  have hstep : step (.firstItem frames) t = step (.value (.items [] :: frames)) t := by
    cases t <;> first | rfl | exact absurd rfl ht
  rw [htokens, List.cons_append, run?, run?, hstep]

/-- A value that the machine takes wherever a value may begin. -/
def IsTaken
    (v : Json) : Prop :=
  ∀ frames us, run? (.value frames) (tokens v ++ us) = run? (put v frames) us

/-- The tokens behind an item complete the array. -/
theorem run?_moreItems
    {vs : List Json}
    (h : ∀ v ∈ vs, v.IsTaken)
    (done : List Json)
    (frames : List Frame)
    (us : List Token) :
    run? (.moreItems done frames) (moreItems vs ++ us) =
      run? (put (.arr (done.reverse ++ vs)) frames) us := by
  induction vs generalizing done with
  | nil =>
      rw [List.append_nil]
      rfl
  | cons v vs ih =>
      calc run? (.moreItems done frames) (moreItems (v :: vs) ++ us)
          = run? (.value (.items done :: frames)) (tokens v ++ (moreItems vs ++ us)) := by
            rw [← List.append_assoc]
            rfl
        _ = run? (.moreItems (v :: done) frames) (moreItems vs ++ us) :=
            h v List.mem_cons_self _ _
        _ = run? (put (.arr (done.reverse ++ v :: vs)) frames) us := by
            rw [ih fun w hw => h w (List.mem_cons_of_mem v hw)]
            simp

/-- The tokens behind a member complete the object. -/
theorem run?_moreMembers
    {ms : List (Option String × Json)}
    (h : ∀ m ∈ ms, m.2.IsTaken)
    (done : List (Option String × Json))
    (frames : List Frame)
    (us : List Token) :
    run? (.moreMembers done frames) (moreMembers ms ++ us) =
      run? (put (.obj (done.reverse ++ ms)) frames) us := by
  induction ms generalizing done with
  | nil =>
      rw [List.append_nil]
      rfl
  | cons m ms ih =>
      obtain ⟨k, v⟩ := m
      calc run? (.moreMembers done frames) (moreMembers ((k, v) :: ms) ++ us)
          = run? (.value (.members done k :: frames)) (tokens v ++ (moreMembers ms ++ us)) := by
            rw [← List.append_assoc]
            rfl
        _ = run? (.moreMembers ((k, v) :: done) frames) (moreMembers ms ++ us) :=
            h (k, v) List.mem_cons_self _ _
        _ = run? (put (.obj (done.reverse ++ (k, v) :: ms)) frames) us := by
            rw [ih fun w hw => h w (List.mem_cons_of_mem (k, v) hw)]
            simp

/-- The machine takes the tokens of a value wherever a value may begin. -/
theorem run?_tokens
    (v : Json) :
    v.IsTaken := by
  induction v using Json.induction with
  | null => exact fun _ _ => rfl
  | bool b => exact fun _ _ => rfl
  | int i => exact fun _ _ => rfl
  | real lexeme => exact fun _ _ => rfl
  | str s => exact fun _ _ => rfl
  | arr items ih =>
      intro frames us
      cases items with
      | nil => rfl
      | cons v vs =>
          calc run? (.value frames) (tokens (.arr (v :: vs)) ++ us)
              = run? (.firstItem frames) (tokens v ++ (moreItems vs ++ us)) := by
                rw [← List.append_assoc]
                rfl
            _ = run? (.moreItems [v] frames) (moreItems vs ++ us) := by
                rw [run?_firstItem]
                exact ih v List.mem_cons_self _ _
            _ = run? (put (.arr (v :: vs)) frames) us :=
                run?_moreItems (fun w hw => ih w (List.mem_cons_of_mem v hw)) [v] frames us
  | obj members ih =>
      intro frames us
      cases members with
      | nil => rfl
      | cons m ms =>
          obtain ⟨k, v⟩ := m
          calc run? (.value frames) (tokens (.obj ((k, v) :: ms)) ++ us)
              = run? (.value (.members [] k :: frames)) (tokens v ++ (moreMembers ms ++ us)) := by
                rw [← List.append_assoc]
                rfl
            _ = run? (.moreMembers [(k, v)] frames) (moreMembers ms ++ us) :=
                ih (k, v) List.mem_cons_self _ _
            _ = run? (put (.obj ((k, v) :: ms)) frames) us :=
                run?_moreMembers (fun w hw => ih w (List.mem_cons_of_mem (k, v) hw)) [(k, v)]
                  frames us

theorem read?_tokens
    (v : Json) :
    read? (tokens v) = some v := by
  have hrun := run?_tokens v [] []
  rw [List.append_nil] at hrun
  rw [read?, hrun]
  rfl

/-- A text that reads as the value, and so do its bytes. -/
structure ReadsAs
    (text : String)
    (v : Json) : Prop where
  ofText : ofText? text = some v
  ofBytes : ofBytes? (Utf8.bytes text) = some v

/-- A text that spells the tokens of a value reads as the value. -/
theorem readsAs_of_spells
    {v : Json}
    {text : List Char}
    (hspells : Spells text (tokens v)) :
    ReadsAs (String.ofList text) v := by
  have hsymbols : ofSymbols? (Utf8.symbolsOfText (String.ofList text)) = some v := by
    rw [ofSymbols?, Utf8.symbolsOfText, String.toList_ofList, hspells.lex?_eq, Option.bind_some,
      read?_tokens v]
  exact ⟨hsymbols, by rw [ofBytes?, Utf8.symbols_bytes, hsymbols]⟩

theorem readsAs_toText
    {v : Json}
    (h : v.Exact) :
    ReadsAs v.toText v :=
  readsAs_of_spells (spells_compact h)

theorem readsAs_toPrettyText
    {v : Json}
    (h : v.Exact) :
    ReadsAs v.toPrettyText v :=
  readsAs_of_spells (spells_pretty h 0)

end Json
end AccountMigration
