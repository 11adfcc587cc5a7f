import AccountMigration.Text.Split
import Mathlib.Data.List.Basic

/-!
# Parts of a split text

Splitting undoes joining: parts without the separator come back as they were, and no part of a split
text has the separator in it.

* `Text.not_mem_of_mem_split`: the parts have no separator.
* `Text.split_intercalate`: joined parts are found again.
* `Text.splitOnce?_eq_some_iff` and `Text.splitOnce?_eq_none_iff`: where a text is cut in two.
-/

namespace AccountMigration
namespace Text

section Split

variable {separator : Char} {cs : List Char}

/-- No part of a split text has the separator in it. -/
theorem not_mem_of_mem_split
    {part : List Char}
    (hpart : part ∈ split separator cs) :
    separator ∉ part := by
  induction cs generalizing part with
  | nil =>
      simp_all [split]
  | cons c rest ih =>
      by_cases hc : c = separator
      · rw [split, if_pos hc] at hpart
        rcases List.mem_cons.mp hpart with rfl | hrest
        · exact List.not_mem_nil
        · exact ih hrest
      · rw [split, if_neg hc] at hpart
        cases hsplit : split separator rest with
        | nil =>
            exact absurd hsplit (split_ne_nil separator rest)
        | cons first parts =>
            simp only [hsplit] at hpart ih
            rcases List.mem_cons.mp hpart with rfl | hrest
            · have hfirst := ih List.mem_cons_self
              simp [hfirst, Ne.symm hc]
            · exact ih (List.mem_cons_of_mem first hrest)

/-- A text without the separator is its only part. -/
theorem split_of_not_mem
    (hcs : separator ∉ cs) :
    split separator cs = [cs] := by
  induction cs with
  | nil =>
      rfl
  | cons c rest ih =>
      rw [List.mem_cons, not_or] at hcs
      rw [split, if_neg (Ne.symm hcs.1), ih hcs.2]

/-- Parts that are joined by the separator are found again. -/
theorem split_intercalate
    {parts : List (List Char)}
    (hne : parts ≠ [])
    (hparts : ∀ part ∈ parts, separator ∉ part) :
    split separator ([separator].intercalate parts) = parts := by
  induction parts with
  | nil =>
      exact absurd rfl hne
  | cons first rest ih =>
      have hfirst : split separator first = [first] :=
        split_of_not_mem (hparts first List.mem_cons_self)
      cases rest with
      | nil =>
          rw [List.intercalate_singleton, hfirst]
      | cons second rest =>
          have hrest := ih (List.cons_ne_nil second rest)
            fun part hpart => hparts part (List.mem_cons_of_mem first hpart)
          rw [List.intercalate_cons_cons, List.append_assoc, List.singleton_append,
            split_append_cons, hfirst, hrest, List.singleton_append]

/-- A text is cut at its first separator. -/
theorem splitOnce?_eq_some_iff
    {front behind : List Char} :
    splitOnce? separator cs = some (front, behind) ↔
      cs = front ++ separator :: behind ∧ separator ∉ front := by
  induction cs generalizing front with
  | nil =>
      simp [splitOnce?]
  | cons c rest ih =>
      by_cases hc : c = separator
      · subst hc
        rw [splitOnce?, if_pos rfl]
        cases front with
        | nil =>
            simp [eq_comm]
        | cons d front =>
            simp only [Option.some.injEq, Prod.mk.injEq, reduceCtorEq, false_and, false_iff,
              List.cons_append, List.cons.injEq, List.mem_cons, not_or]
            exact fun h => h.2.1 h.1.1
      · rw [splitOnce?, if_neg hc]
        cases front with
        | nil =>
            simp [hc]
        | cons d front =>
            simp only [Option.map_eq_some_iff, Prod.exists, Prod.mk.injEq, List.cons.injEq,
              List.cons_append, List.mem_cons, not_or]
            constructor
            · rintro ⟨_, _, hrest, ⟨rfl, rfl⟩, rfl⟩
              obtain ⟨hrest, hfront⟩ := ih.mp hrest
              exact ⟨⟨rfl, hrest⟩, Ne.symm hc, hfront⟩
            · rintro ⟨⟨rfl, hrest⟩, -, hfront⟩
              exact ⟨front, behind, ih.mpr ⟨hrest, hfront⟩, ⟨rfl, rfl⟩, rfl⟩

theorem splitOnce?_eq_none_iff :
    splitOnce? separator cs = none ↔ separator ∉ cs := by
  induction cs with
  | nil =>
      simp [splitOnce?]
  | cons c rest ih =>
      by_cases hc : c = separator
      · simp [splitOnce?, hc]
      · simp [splitOnce?, hc, ih, Ne.symm hc]

end Split

end Text
end AccountMigration
