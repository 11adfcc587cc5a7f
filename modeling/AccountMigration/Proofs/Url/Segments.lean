import AccountMigration.Url.Basic
import Mathlib.Data.List.Basic

/-!
# Segments behind a path

A text that is appended to a path becomes one segment of its own, unless it is a dot segment or
holds characters that are dropped.

* `Url.IsSegment` and `Url.IsPlain`: texts that can be a segment, and those that are written as
  they are.
* `Url.appendSegment_cases`: what becomes of a path when any text is appended.
* `Url.room_eq_iff`: how much of a path stays when segments are appended.
* `Url.toText_concat_injective`: URLs that differ in their last segment have different texts.
-/

namespace AccountMigration
namespace Url

/-- A text that can be a segment of its own: no dot segment, and nothing in it is dropped. -/
def IsSegment
    (text : String) : Prop :=
  text ≠ "." ∧ text ≠ ".." ∧ ∀ c ∈ text.toList, isDropped c = false

instance
    (text : String) :
    Decidable (IsSegment text) :=
  decidable_of_iff (text ≠ "." ∧ text ≠ ".." ∧ text.toList.all (fun c => !isDropped c) = true)
    (by simp [IsSegment])

/-- The characters of a text that are not dropped. -/
def keptChars
    (text : String) : List Char :=
  text.toList.filter fun c => !isDropped c

/-- A path without an empty segment at its end, be it the only one. -/
def withoutLastEmpty
    (path : List String) : List String :=
  if path.getLast? = some "" then path.dropLast else path

/-- The path that segments are appended to. -/
def room
    (u : Url) : List String :=
  withoutRoot (withoutTrailingEmpty u.path)

theorem keptChars_eq_iff
    (text : String) :
    keptChars text = text.toList ↔ ∀ c ∈ text.toList, isDropped c = false := by
  rw [keptChars, List.filter_eq_self]
  simp

theorem withoutRoot_of_one_lt
    {path : List String}
    (hpath : 1 < path.length) :
    withoutRoot path = path := by
  rw [withoutRoot, if_neg]
  rintro rfl
  simp at hpath

theorem withoutRoot_concat
    (path : List String)
    {segment : String}
    (hsegment : segment ≠ "") :
    withoutRoot (path ++ [segment]) = path ++ [segment] := by
  rw [withoutRoot, if_neg]
  cases path <;> simp [hsegment]

theorem withoutLastEmpty_concat_empty
    (path : List String) :
    withoutLastEmpty (path ++ [""]) = path := by
  rw [withoutLastEmpty, if_pos List.getLast?_concat, List.dropLast_concat]

theorem withoutTrailingEmpty_concat_empty
    {path : List String}
    (hpath : path ≠ []) :
    withoutTrailingEmpty (path ++ [""]) = path := by
  have hlength := List.length_pos_iff.mpr hpath
  rw [withoutTrailingEmpty, if_pos ⟨by simp; omega, List.getLast?_concat⟩, List.dropLast_concat]

/-- The path of two slashes is the only one that makes room by more than one empty segment. -/
theorem room_eq_iff
    (u : Url) :
    u.room = withoutLastEmpty u.path ↔ u.path ≠ ["", ""] := by
  unfold room
  rcases List.eq_nil_or_concat u.path with hpath | ⟨front, last, hpath⟩
  · simp [hpath, withoutLastEmpty, withoutTrailingEmpty, withoutRoot]
  · rw [hpath, List.concat_eq_append]
    by_cases hlast : last = ""
    · subst hlast
      by_cases hfront : front = []
      · simp [hfront, withoutLastEmpty, withoutTrailingEmpty, withoutRoot]
      · rw [withoutTrailingEmpty_concat_empty hfront, withoutLastEmpty_concat_empty]
        by_cases hroot : front = [""]
        · simp [hroot, withoutRoot]
        · have htwo : front ++ [""] ≠ ["", ""] := by
            intro h
            have happend : front ++ [""] = [""] ++ [""] := h
            exact hroot (List.append_cancel_right happend)
          simp [hroot, htwo, withoutRoot]
    · have hkept : withoutTrailingEmpty (front ++ [last]) = front ++ [last] := by
        simp [withoutTrailingEmpty, hlast]
      have hwhole : withoutLastEmpty (front ++ [last]) = front ++ [last] := by
        simp [withoutLastEmpty, hlast]
      have htwo : front ++ [last] ≠ ["", ""] := by
        intro h
        have hlasts := congrArg List.getLast? h
        simp [hlast] at hlasts
      simp [hkept, hwhole, htwo, withoutRoot_concat front hlast]

section Append

variable (special : Bool) (path : List String)

/-- What becomes of a path when a text is appended: a dot segment is passed over or resolved, and
everything else becomes a segment without the characters that are dropped. -/
theorem appendSegment_cases
    (text : String) :
    (text = "." ∨ text = "..") ∧ appendSegment special path text = path ∨
    keptChars text = ['.'] ∧ appendSegment special path text = withoutRoot path ++ [""] ∨
    keptChars text = ['.', '.'] ∧
      appendSegment special path text = (withoutRoot path).dropLast ++ [""] ∨
    text ≠ "." ∧ text ≠ ".." ∧
      appendSegment special path text = withoutRoot path ++
        [String.ofList (Percent.encode (Percent.inSegmentSet special) (keptChars text))] := by
  by_cases hdots : text = "." ∨ text = ".."
  · exact Or.inl ⟨hdots, by rw [appendSegment, if_pos hdots]⟩
  · rw [appendSegment, if_neg hdots]
    simp only
    rw [not_or] at hdots
    by_cases hsingle : keptChars text = ['.']
    · exact Or.inr (Or.inl ⟨hsingle, if_pos hsingle⟩)
    · by_cases hdouble : keptChars text = ['.', '.']
      · refine Or.inr (Or.inr (Or.inl ⟨hdouble, ?_⟩))
        exact (if_neg hsingle).trans (if_pos hdouble)
      · refine Or.inr (Or.inr (Or.inr ⟨hdots.1, hdots.2, ?_⟩))
        exact (if_neg hsingle).trans (if_neg hdouble)

theorem appendSegment_of_isSegment
    {text : String}
    (htext : IsSegment text) :
    appendSegment special path text = withoutRoot path ++
      [String.ofList (Percent.encode (Percent.inSegmentSet special) text.toList)] := by
  obtain ⟨hsingle, hdouble, hkept⟩ := htext
  rw [← keptChars_eq_iff] at hkept
  rcases appendSegment_cases special path text with
    ⟨hdots, -⟩ | ⟨hdot, -⟩ | ⟨hdot, -⟩ | ⟨-, -, happend⟩
  · exact absurd hdots (not_or.mpr ⟨hsingle, hdouble⟩)
  · exact absurd (String.ext (by rw [← hkept, hdot]; rfl)) hsingle
  · exact absurd (String.ext (by rw [← hkept, hdot]; rfl)) hdouble
  · rw [happend, hkept]

theorem length_appendSegment_le
    (text : String) :
    (appendSegment special path text).length ≤ path.length + 1 := by
  have hroot : (withoutRoot path).length ≤ path.length := by
    unfold withoutRoot
    split <;> simp
  rcases appendSegment_cases special path text with
    ⟨-, h⟩ | ⟨-, h⟩ | ⟨-, h⟩ | ⟨-, -, h⟩ <;> rw [h] <;> simp <;> omega

end Append

/-- A segment that is written as it is. -/
def IsPlain
    (special : Bool)
    (segment : String) : Prop :=
  IsSegment segment ∧ segment ≠ "" ∧
    Percent.encode (Percent.inSegmentSet special) segment.toList = segment.toList

instance
    (special : Bool)
    (segment : String) :
    Decidable (IsPlain special segment) :=
  inferInstanceAs (Decidable (_ ∧ _ ∧ _))

theorem appendSegment_of_isPlain
    {special : Bool}
    {segment : String}
    (hsegment : IsPlain special segment)
    (path : List String) :
    appendSegment special path segment = withoutRoot path ++ [segment] := by
  obtain ⟨hsegment, -, hencode⟩ := hsegment
  rw [appendSegment_of_isSegment special path hsegment, hencode, String.ofList_toList]

/-- Plain segments follow a path as they are, unless the path is the root. -/
theorem foldl_appendSegment_of_isPlain
    {special : Bool}
    {segments : List String}
    (hplain : ∀ segment ∈ segments, IsPlain special segment)
    (path : List String) :
    withoutRoot (segments.foldl (appendSegment special) path) = withoutRoot path ++ segments := by
  induction segments generalizing path with
  | nil =>
      simp
  | cons segment segments ih =>
      obtain ⟨hsegment, hsegments⟩ := List.forall_mem_cons.mp hplain
      rw [List.foldl_cons, ih hsegments, appendSegment_of_isPlain hsegment,
        withoutRoot_concat _ hsegment.2.1, List.append_assoc, List.singleton_append]

/-- Plain segments follow the room of a URL as they are. -/
theorem path_appendAll_of_isPlain
    (u : Url)
    {segments : List String}
    (hsegments : segments ≠ [])
    (hplain : ∀ segment ∈ segments, IsPlain u.isSpecial segment) :
    (u.appendAll segments).path = u.room ++ segments := by
  have hfold : withoutRoot (u.appendAll segments).path = u.room ++ segments :=
    foldl_appendSegment_of_isPlain hplain (withoutTrailingEmpty u.path)
  rw [← hfold, withoutRoot, if_neg]
  intro hroot
  rw [hroot] at hfold
  simp [withoutRoot, hsegments] at hfold

theorem pathText_concat
    (path : List String)
    (segment : String) :
    pathText (path ++ [segment]) = pathText path ++ '/' :: segment.toList := by
  simp [pathText]

/-- URLs that differ in their last segment only have different texts. -/
theorem toText_concat_injective
    (u : Url)
    {path : List String}
    (hpath : path ≠ []) :
    Function.Injective fun last => toText { u with path := path ++ [last] } := by
  intro a b h
  have hauthority : authorityText { u with path := path ++ [a] } =
      authorityText { u with path := path ++ [b] } := by
    cases path with
    | nil => exact absurd rfl hpath
    | cons first rest => simp [authorityText]
  have htext := congrArg String.toList h
  simp only [toText, String.toList_ofList, hauthority, pathText_concat, List.append_assoc,
    List.cons_append, List.append_cancel_left_eq, List.cons.injEq, true_and] at htext
  exact String.ext (List.append_cancel_right htext)

end Url
end AccountMigration
