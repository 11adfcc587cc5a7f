import AccountMigration.Proofs.Text.Trim
import AccountMigration.Uuid

/-!
# The canonical spelling of a UUID

A UUID that is written and read again is the same, also when blanks are trimmed in between.
So a text is the canonical spelling of a UUID exactly when it reads as one and is written as
before.

* `Uuid.ofText?_toText`: what is written reads back.
* `Uuid.trim_toText`: the canonical spelling has no blanks.
* `Uuid.isCanonical_iff`: how to tell that a text is a canonical spelling.
-/

namespace AccountMigration

open Text

namespace Text

theorem isBlank_hexDigit
    {value : Nat}
    (h : value < 16) :
    isBlank (hexDigit value) = false := by
  have all : ∀ v ∈ List.range 16, isBlank (hexDigit v) = false := by
    decide
  exact all value (List.mem_range.mpr h)

/-- Written digits read back as their values. -/
theorem mapM_hexValue?_map_hexDigit
    {values : List Nat}
    (h : ∀ v ∈ values, v < 16) :
    (values.map hexDigit).mapM hexValue? = some values := by
  induction values with
  | nil =>
      rfl
  | cons v values ih =>
      have hrest := ih fun w hw => h w (List.mem_cons_of_mem v hw)
      rw [List.map_cons, List.mapM_cons, hexValue?_hexDigit (h v List.mem_cons_self), hrest]
      rfl

end Text

namespace Uuid

/-- Five groups with hyphens between them. -/
def grouped
    (a b c d e : List Char) : List Char :=
  a ++ '-' :: b ++ '-' :: c ++ '-' :: d ++ '-' :: e

/-- Groups of the right lengths lose their hyphens. -/
theorem ungroup?_grouped
    {a b c d e : List Char}
    (ha : a.length = 8)
    (hb : b.length = 4)
    (hc : c.length = 4)
    (hd : d.length = 4)
    (he : e.length = 12) :
    ungroup? (grouped a b c d e) = some (a ++ b ++ c ++ d ++ e) := by
  have hhyphens : (grouped a b c d e).length = 36 ∧ (grouped a b c d e)[8]? = some '-' ∧
      (grouped a b c d e)[13]? = some '-' ∧ (grouped a b c d e)[18]? = some '-' ∧
      (grouped a b c d e)[23]? = some '-' := by
    simp [grouped, ha, hb, hc, hd, he]
  rw [ungroup?, if_pos hhyphens]
  simp [grouped, List.drop_append, List.drop_eq_nil_of_le, ha, hb, hc, hd]

/-- The characters of a UUID without hyphens. -/
def hexChars
    (u : Uuid) : List Char :=
  u.digits.map hexDigit

theorem toChars_eq_grouped
    (u : Uuid) :
    u.toChars = grouped (u.hexChars.take 8) ((u.hexChars.drop 8).take 4)
      ((u.hexChars.drop 12).take 4) ((u.hexChars.drop 16).take 4) (u.hexChars.drop 20) := by
  rfl

theorem ungroup?_toChars
    (u : Uuid) :
    ungroup? u.toChars = some u.hexChars := by
  have hlength : u.hexChars.length = 32 := by
    rw [hexChars, List.length_map, u.length_digits]
  have hpieces : u.hexChars.take 8 ++ (u.hexChars.drop 8).take 4 ++ (u.hexChars.drop 12).take 4
      ++ (u.hexChars.drop 16).take 4 ++ u.hexChars.drop 20 = u.hexChars := by
    have hstep : ∀ k, (u.hexChars.drop k).take 4 ++ u.hexChars.drop (k + 4) =
        u.hexChars.drop k := by
      intro k
      rw [← List.drop_drop, List.take_append_drop]
    rw [List.append_assoc, hstep 16, List.append_assoc, hstep 12, List.append_assoc, hstep 8,
      List.take_append_drop]
  rw [toChars_eq_grouped, ungroup?_grouped, hpieces] <;> simp [hlength]

theorem length_toChars
    (u : Uuid) :
    u.toChars.length = 36 := by
  simp [toChars, u.length_digits]

/-- A UUID that is written reads back. -/
theorem ofText?_toText
    (u : Uuid) :
    ofText? u.toText = some u := by
  have hdigits : u.digits.length = 32 ∧ ∀ d ∈ u.digits, d < 16 := ⟨u.length_digits, u.digit_lt⟩
  rw [ofText?, toText, String.toList_ofList, ofChars?, u.length_toChars, if_neg (by decide),
    if_pos rfl, ungroup?_toChars, Option.bind_some, ofDigits?, hexChars,
    mapM_hexValue?_map_hexDigit u.digit_lt]
  simp only [dif_pos hdigits]

/-- Different UUIDs have different canonical spellings. -/
theorem toText_injective
    {u w : Uuid}
    (h : u.toText = w.toText) :
    u = w := by
  have hread := u.ofText?_toText
  rw [h, w.ofText?_toText] at hread
  exact (Option.some.inj hread).symm

/-- The canonical spelling has hyphens and hexadecimal digits only. -/
theorem mem_toChars
    {u : Uuid}
    {c : Char}
    (hc : c ∈ u.toChars) :
    c = '-' ∨ c ∈ u.hexChars := by
  simp only [toChars_eq_grouped, grouped, List.mem_append, List.mem_cons] at hc
  rcases hc with (((h | h | h) | h | h) | h | h) | h | h
  all_goals
    first
      | exact Or.inl h
      | exact Or.inr (List.mem_of_mem_take h)
      | exact Or.inr (List.mem_of_mem_drop h)
      | exact Or.inr (List.mem_of_mem_drop (List.mem_of_mem_take h))

theorem isBlank_toChars
    (u : Uuid) :
    ∀ c ∈ u.toChars, isBlank c = false := by
  intro c hc
  rcases mem_toChars hc with rfl | hhex
  · decide
  · obtain ⟨d, hd, rfl⟩ := List.mem_map.mp hhex
    exact isBlank_hexDigit (u.digit_lt d hd)

/-- Nothing is trimmed from the canonical spelling. -/
theorem trim_toText
    (u : Uuid) :
    trim u.toText = u.toText := by
  rw [trim, toText, String.toList_ofList, trimChars_of_no_blank u.isBlank_toChars]

/-- Whether a text is the canonical spelling of a UUID. -/
def isCanonical
    (s : String) : Bool :=
  (ofText? s).map toText = some s

/-- A text is a canonical spelling exactly when some UUID is written like that. -/
theorem isCanonical_iff
    {s : String} :
    isCanonical s = true ↔ ∃ u : Uuid, u.toText = s := by
  rw [isCanonical, decide_eq_true_iff]
  constructor
  · intro h
    obtain ⟨u, -, hu⟩ := Option.map_eq_some_iff.mp h
    exact ⟨u, hu⟩
  · rintro ⟨u, rfl⟩
    rw [ofText?_toText]
    rfl

end Uuid

end AccountMigration
