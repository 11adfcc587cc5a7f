import AccountMigration.Dedup.Key
import Mathlib.Data.List.DropRight

/-!
# Trimmed text

Trimming leaves text without blanks at its ends, so trimming again changes nothing.  Therefore
a field that was trimmed has the same key as the field as it was.

* `Text.trim_trim` and `Text.present?_present?`: trimmed text stays as it is.
* `Text.trimChars_eq_self_iff`: what trimmed text looks like at its ends.
* `Text.trimChars_padded`: blanks around a text do not show.
* `Text.trimEnd_append_of_no_blank`: trimming at the end stops at a word without blanks.
* `normalized_present?`: the key of a field does not depend on the blanks around it.
-/

namespace AccountMigration
namespace Text

theorem trimStart_eq_self_iff
    {cs : List Char} :
    trimStart cs = cs ↔ ∀ c ∈ cs.head?, isBlank c = false := by
  cases cs with
  | nil =>
      simp
  | cons c cs =>
      rw [trimStart_cons]
      by_cases hc : isBlank c = true
      · -- a shorter list is not the list itself
        have hlength : (trimStart cs).length ≤ cs.length :=
          (List.dropWhile_sublist isBlank).length_le
        constructor
        · intro h
          rw [if_pos hc] at h
          have := congrArg List.length h
          rw [List.length_cons] at this
          omega
        · intro h
          have := h c rfl
          simp [hc] at this
      · simp [hc]

theorem trimStart_of_no_blank
    {cs : List Char}
    (hcs : ∀ c ∈ cs, isBlank c = false) :
    trimStart cs = cs :=
  trimStart_eq_self_iff.mpr fun c hc => hcs c (List.mem_of_mem_head? hc)

/-- Trimming at the end stops at a word without blanks. -/
theorem trimEnd_append_of_no_blank
    {word : List Char}
    (hword : ∀ c ∈ word, isBlank c = false)
    (rest : List Char) :
    trimEnd (word ++ rest) = word ++ trimEnd rest := by
  have hreverse : trimStart word.reverse = word.reverse :=
    trimStart_of_no_blank fun c hc => hword c (List.mem_reverse.mp hc)
  rw [trimStart] at hreverse
  simp only [trimEnd, trimStart, List.reverse_append, List.dropWhile_append]
  split
  · next hrest =>
    rw [List.isEmpty_iff.mp hrest, hreverse]
    simp
  · simp

theorem trimChars_of_no_blank
    {cs : List Char}
    (hcs : ∀ c ∈ cs, isBlank c = false) :
    trimChars cs = cs := by
  have hend := trimEnd_append_of_no_blank hcs []
  rw [trimChars, trimStart_of_no_blank hcs]
  simpa [trimEnd] using hend

theorem trimEnd_trimEnd
    (cs : List Char) :
    trimEnd (trimEnd cs) = trimEnd cs :=
  List.rdropWhile_idempotent isBlank cs

/-- Trimming at the end keeps what stands in front. -/
theorem head?_trimEnd
    {cs : List Char}
    {c : Char}
    (hc : c ∈ (trimEnd cs).head?) :
    c ∈ cs.head? := by
  obtain ⟨rest, hrest⟩ := List.rdropWhile_prefix isBlank cs
  have hcs : trimEnd cs ++ rest = cs := hrest
  rw [← hcs, List.head?_append, Option.mem_def.mp hc]
  rfl

theorem trimStart_trimStart
    (cs : List Char) :
    trimStart (trimStart cs) = trimStart cs :=
  List.dropWhile_idempotent isBlank cs

theorem trimStart_trimChars
    (cs : List Char) :
    trimStart (trimChars cs) = trimChars cs := by
  rw [trimStart_eq_self_iff]
  intro c hc
  exact trimStart_eq_self_iff.mp (trimStart_trimStart cs) c (head?_trimEnd hc)

theorem trimChars_trimChars
    (cs : List Char) :
    trimChars (trimChars cs) = trimChars cs := by
  rw [trimChars, trimStart_trimChars, trimChars, trimEnd_trimEnd]

theorem trimEnd_eq_self_iff
    {cs : List Char} :
    trimEnd cs = cs ↔ ∀ c ∈ cs.getLast?, isBlank c = false := by
  rw [trimEnd, List.reverse_eq_iff, trimStart_eq_self_iff, List.head?_reverse]

/-- The first and the last character of a text, if there are any, are not blank. -/
structure HasNoBlankEnds
    (cs : List Char) : Prop where
  head : ∀ c ∈ cs.head?, isBlank c = false
  last : ∀ c ∈ cs.getLast?, isBlank c = false

/-- Text is trimmed when it has no blanks at its ends. -/
theorem trimChars_eq_self_iff
    {cs : List Char} :
    trimChars cs = cs ↔ HasNoBlankEnds cs := by
  constructor
  · intro htrimmed
    have hstart := trimStart_trimChars cs
    have hend := trimEnd_trimEnd (trimStart cs)
    rw [htrimmed] at hstart
    rw [← trimChars, htrimmed] at hend
    exact ⟨trimStart_eq_self_iff.mp hstart, trimEnd_eq_self_iff.mp hend⟩
  · rintro ⟨hhead, hlast⟩
    rw [trimChars, trimStart_eq_self_iff.mpr hhead, trimEnd_eq_self_iff.mpr hlast]

/-- Blanks around a text are trimmed with those at its own ends. -/
theorem trimChars_padded
    {front back : List Char}
    (hfront : front.all isBlank = true)
    (hback : back.all isBlank = true)
    (cs : List Char) :
    trimChars (front ++ cs ++ back) = trimChars cs := by
  have hend : ∀ ds : List Char, trimEnd (ds ++ back) = trimEnd ds := by
    intro ds
    rw [trimEnd, trimStart, List.reverse_append, List.dropWhile_append_of_pos, ← trimStart, trimEnd]
    intro c hc
    exact List.all_eq_true.mp hback c (List.mem_reverse.mp hc)
  have hstart : trimStart (front ++ (cs ++ back)) = trimStart (cs ++ back) :=
    List.dropWhile_append_of_pos (List.all_eq_true.mp hfront)
  rw [trimChars, List.append_assoc, hstart, trimStart, List.dropWhile_append]
  split
  · next hblank =>
    -- the text is blank, and so is all of it
    have hnone : trimStart cs = [] := List.isEmpty_iff.mp hblank
    rw [← trimStart, trimChars, hnone, (trimStart_nil_iff back).mpr hback]
  · rw [hend, trimChars, trimStart]

/-- What is left of a text was in it before. -/
theorem mem_of_mem_trimChars
    {c : Char}
    {cs : List Char}
    (hc : c ∈ trimChars cs) :
    c ∈ cs := by
  have hstart : c ∈ trimStart cs := (List.rdropWhile_prefix isBlank (trimStart cs)).subset hc
  exact (List.dropWhile_suffix isBlank).subset hstart

theorem hasNoBlankEnds_trim
    (s : String) :
    HasNoBlankEnds (trim s).toList := by
  rw [trim, String.toList_ofList, ← trimChars_eq_self_iff, trimChars_trimChars]

@[simp] theorem trim_trim
    (s : String) :
    trim (trim s) = trim s := by
  simp [trim, trimChars_trimChars]

@[simp] theorem present?_present?
    (field : Option String) :
    present? (present? field) = present? field := by
  cases field with
  | none =>
      rfl
  | some s =>
      by_cases hs : trim s = ""
      · simp [present?, hs]
      · simp [present?, hs]

end Text

open Text

@[simp] theorem normalized_present?
    (field : Option String) :
    normalized (present? field) = normalized field := by
  rw [normalized, present?_present?, normalized]

theorem normalized_eq_none_iff
    {field : Option String} :
    normalized field = none ↔ present? field = none := by
  rw [normalized, Option.map_eq_none_iff]

end AccountMigration
