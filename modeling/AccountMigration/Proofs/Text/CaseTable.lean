import AccountMigration.Text.Blank
import AccountMigration.Text.Lowercase
import Mathlib.Data.List.Chain

/-!
# What the case tables say

The table of lower cases is a list of runs of code points.  Three facts about it are checked run by
run: the runs do not overlap, no image is in a run, and no image is a blank.  What lower casing does
to a single character follows from them.

* `CodeRange.isApart`: whether two ranges have no code point in common.
* `CaseRun.avoids`: whether the images of a run are outside of another one.
* `lowerChar_of_image` and `lowerChar_of_unmapped`: the lower case of a character, whichever run it
  is found in.
* `IsSettled`: a character that lower casing leaves as it is.
* `isSettled_ofNat_image` and `isBlank_ofNat_image`: a lower case is settled and not a blank.
-/

namespace AccountMigration

namespace CodeRange

/-- Whether two ranges have no code point in common. -/
def isApart
    (r s : CodeRange) : Bool :=
  Nat.blt r.last s.first || Nat.blt s.last r.first

variable {r s : CodeRange} {ranges : List CodeRange}

theorem isApart_iff :
    r.isApart s = true ↔ r.last < s.first ∨ s.last < r.first := by
  simp [isApart, Nat.blt_eq]

theorem covers_iff
    {c : Char} :
    covers ranges c = true ↔ ∃ r ∈ ranges, r.first ≤ c.toNat ∧ c.toNat ≤ r.last := by
  simp [covers, contains_iff]

/-- A code point of a range is not covered by ranges that are apart from it. -/
theorem not_covers_of_isApart
    (hapart : ∀ s ∈ ranges, r.isApart s = true)
    {c : Char}
    (hc : r.first ≤ c.toNat ∧ c.toNat ≤ r.last) :
    covers ranges c = false := by
  rw [← Bool.not_eq_true, covers_iff]
  rintro ⟨s, hs, hcs⟩
  have hrs := isApart_iff.mp (hapart s hs)
  omega

end CodeRange

namespace Text

namespace CaseRun

/-- Where the images of a run are. -/
def imageRange
    (run : CaseRun) : CodeRange :=
  ⟨run.image, run.image + (run.last - run.first)⟩

/-- Whether the images of the first run are outside of the second one: outside of its bounds, or
between its code points, which are two apart. -/
def avoids
    (run other : CaseRun) : Bool :=
  run.imageRange.isApart ⟨other.first, other.last⟩ ||
    ((run.stride == 2 || run.first == run.last) && other.stride == 2 &&
      run.image % 2 != other.first % 2)

/-- The first run is not empty and ends before the second one begins. -/
def Precedes
    (run later : CaseRun) : Prop :=
  run.first ≤ run.last ∧ run.last < later.first

instance
    (run later : CaseRun) : Decidable (run.Precedes later) :=
  inferInstanceAs (Decidable (_ ∧ _))

instance : Trans Precedes Precedes Precedes where
  trans hab hbc := ⟨hab.1, hab.2.trans (hbc.1.trans_lt hbc.2)⟩

variable {run other : CaseRun} {code image : Nat}

theorem image?_eq_some_iff :
    run.image? code = some image ↔
      run.first ≤ code ∧ code ≤ run.last ∧ (code - run.first) % run.stride = 0 ∧
        run.image + (code - run.first) = image := by
  unfold image?
  split
  · next h =>
    rw [Option.some.injEq]
    exact ⟨fun himage => ⟨h.1, h.2.1, h.2.2, himage⟩, fun himage => himage.2.2.2⟩
  · next h =>
    constructor
    · intro hnone
      cases hnone
    · rintro ⟨hfirst, hlast, hstride, -⟩
      exact absurd ⟨hfirst, hlast, hstride⟩ h

theorem image?_eq_none_of_outside
    (houtside : code < run.first ∨ run.last < code) :
    run.image? code = none := by
  rw [Option.eq_none_iff_forall_ne_some]
  intro image himage
  obtain ⟨hfirst, hlast, -⟩ := image?_eq_some_iff.mp himage
  omega

theorem mem_imageRange
    (himage : run.image? code = some image) :
    run.image ≤ image ∧ image ≤ run.image + (run.last - run.first) := by
  obtain ⟨hfirst, hlast, -, hsum⟩ := image?_eq_some_iff.mp himage
  omega

/-- An image has no image in a run that is avoided. -/
theorem image?_image
    (havoids : run.avoids other = true)
    (himage : run.image? code = some image) :
    other.image? image = none := by
  rw [avoids, Bool.or_eq_true, CodeRange.isApart_iff] at havoids
  have hrange := mem_imageRange himage
  rcases havoids with hapart | hparity
  · refine image?_eq_none_of_outside ?_
    simp only [imageRange] at hapart
    omega
  · -- the distance from the first code point of the other run is odd
    simp only [Bool.and_eq_true, Bool.or_eq_true, beq_iff_eq, bne_iff_ne] at hparity
    obtain ⟨⟨heven, hother⟩, hparity⟩ := hparity
    obtain ⟨hfirst, hlast, hstride, hsum⟩ := image?_eq_some_iff.mp himage
    have hdistance : (code - run.first) % 2 = 0 := by
      rcases heven with h | h
      · rwa [h] at hstride
      · omega
    rw [Option.eq_none_iff_forall_ne_some]
    intro next hnext
    obtain ⟨hfirst', -, hstride', -⟩ := image?_eq_some_iff.mp hnext
    rw [hother] at hstride'
    omega

end CaseRun

/-- The runs are listed by ascending code points. -/
theorem lowercaseRuns_ascending :
    lowercaseRuns.IsChain CaseRun.Precedes := by
  decide +kernel

theorem lowercaseRuns_avoid :
    (lowercaseRuns.all fun run => lowercaseRuns.all fun other => run.avoids other) = true := by
  decide +kernel

/-- Code points that are no images: the dotted capital I, those that are no characters, and
blanks. -/
def nonImages : List CodeRange :=
  ⟨0x130, 0x130⟩ :: ⟨0xD800, 0xDFFF⟩ :: blankRanges

theorem imageRange_isApart :
    (lowercaseRuns.all fun run =>
      Nat.blt run.imageRange.last 0x110000 && nonImages.all fun r => run.imageRange.isApart r) =
        true := by
  decide +kernel

section Images

variable {run : CaseRun} {code image : Nat}

/-- A code point that has an image in a run has it in no run before. -/
theorem findSome?_image
    (hrun : run ∈ lowercaseRuns)
    (himage : run.image? code = some image) :
    lowercaseRuns.findSome? (·.image? code) = some image := by
  have hordered := lowercaseRuns_ascending.pairwise
  obtain ⟨before, after, hruns⟩ := List.append_of_mem hrun
  rw [hruns, List.pairwise_append] at hordered
  refine List.findSome?_eq_some_iff.mpr ⟨before, run, after, hruns, himage, fun other hother => ?_⟩
  have hbefore : other.Precedes run := hordered.2.2 other hother run List.mem_cons_self
  have hfirst := (CaseRun.image?_eq_some_iff.mp himage).1
  exact CaseRun.image?_eq_none_of_outside (.inr (hbefore.2.trans_le hfirst))

theorem image_bounds
    (hrun : run ∈ lowercaseRuns)
    (himage : run.image? code = some image) :
    image < 0x110000 ∧ ∀ r ∈ nonImages, image < r.first ∨ r.last < image := by
  have hapart := List.all_eq_true.mp imageRange_isApart run hrun
  rw [Bool.and_eq_true, Nat.blt_eq, List.all_eq_true] at hapart
  have hrange := CaseRun.mem_imageRange himage
  refine ⟨hrange.2.trans_lt hapart.1, fun r hr => ?_⟩
  have hr := CodeRange.isApart_iff.mp (hapart.2 r hr)
  simp only [CaseRun.imageRange] at hr
  omega

/-- An image is a character. -/
theorem toNat_ofNat_image
    (hrun : run ∈ lowercaseRuns)
    (himage : run.image? code = some image) :
    (Char.ofNat image).toNat = image := by
  obtain ⟨hlast, hbounds⟩ := image_bounds hrun himage
  have hvalid : image.isValidChar := by
    have hsurrogate : image < 0xD800 ∨ 0xDFFF < image :=
      hbounds ⟨0xD800, 0xDFFF⟩ (by simp [nonImages])
    rcases hsurrogate with h | h
    · exact .inl h
    · exact .inr ⟨h, hlast⟩
  rw [Char.ofNat, dif_pos hvalid]
  rfl

end Images

/-- A character that lower casing leaves as it is, wherever it stands. -/
structure IsSettled
    (c : Char) : Prop where
  unmapped : ∀ run ∈ lowercaseRuns, run.image? c.toNat = none
  undotted : c ≠ 'İ'

section Characters

variable {c : Char} {run : CaseRun} {image : Nat}

theorem lowerChar_of_image
    (hrun : run ∈ lowercaseRuns)
    (himage : run.image? c.toNat = some image) :
    lowerChar c = Char.ofNat image := by
  rw [lowerChar, findSome?_image hrun himage]

theorem lowerChar_of_unmapped
    (hunmapped : ∀ run ∈ lowercaseRuns, run.image? c.toNat = none) :
    lowerChar c = c := by
  rw [lowerChar, List.findSome?_eq_none_iff.mpr hunmapped]

/-- A character has an image in one of the runs or in none. -/
theorem mapped_or_unmapped
    (c : Char) :
    (∃ run ∈ lowercaseRuns, ∃ image, run.image? c.toNat = some image) ∨
      ∀ run ∈ lowercaseRuns, run.image? c.toNat = none := by
  by_cases hmapped : ∃ run ∈ lowercaseRuns, ∃ image, run.image? c.toNat = some image
  · exact .inl hmapped
  · refine .inr fun run hrun => Option.eq_none_iff_forall_ne_some.mpr fun image himage => ?_
    exact hmapped ⟨run, hrun, image, himage⟩

/-- A lower case is settled. -/
theorem isSettled_ofNat_image
    (hrun : run ∈ lowercaseRuns)
    (himage : run.image? c.toNat = some image) :
    IsSettled (Char.ofNat image) where
  unmapped := by
    intro other hother
    have havoid := List.all_eq_true.mp lowercaseRuns_avoid run hrun
    rw [toNat_ofNat_image hrun himage]
    exact CaseRun.image?_image (List.all_eq_true.mp havoid other hother) himage
  undotted := by
    intro hdotted
    have hbounds : image < 0x130 ∨ 0x130 < image :=
      (image_bounds hrun himage).2 ⟨0x130, 0x130⟩ (by simp [nonImages])
    have himage := toNat_ofNat_image hrun himage
    rw [hdotted] at himage
    have hcode : 'İ'.toNat = 0x130 := rfl
    omega

/-- A lower case is not a blank. -/
theorem isBlank_ofNat_image
    (hrun : run ∈ lowercaseRuns)
    (himage : run.image? c.toNat = some image) :
    isBlank (Char.ofNat image) = false := by
  rw [isBlank, ← Bool.not_eq_true, CodeRange.covers_iff, toNat_ofNat_image hrun himage]
  rintro ⟨r, hr, hblank⟩
  have hbounds := (image_bounds hrun himage).2 r
    (List.mem_cons_of_mem _ (List.mem_cons_of_mem _ hr))
  omega

/-- The dotted capital I has no lower case in the table. -/
theorem unmapped_dotted :
    ∀ run ∈ lowercaseRuns, run.image? 'İ'.toNat = none := by
  have hall : (lowercaseRuns.all fun run => (run.image? 'İ'.toNat).isNone) = true := by
    decide +kernel
  exact fun run hrun => Option.isNone_iff_eq_none.mp (List.all_eq_true.mp hall run hrun)

/-- The capital sigma has one, so it is not settled. -/
theorem IsSettled.ne_sigma
    (hc : IsSettled c) :
    c ≠ 'Σ' := by
  rintro rfl
  have hmapped : (lowercaseRuns.all fun run => (run.image? 'Σ'.toNat).isNone) = false := by
    decide +kernel
  obtain ⟨run, hrun, himage⟩ := List.all_eq_false.mp hmapped
  exact himage (Option.isNone_iff_eq_none.mpr (hc.unmapped run hrun))

end Characters

section Untabled

/-- The characters that lower casing writes without looking into the table. -/
def untabled : List Char :=
  ['ς', 'σ', 'i', '\u0307']

theorem untabled_are_settled :
    (untabled.all fun c =>
      !isBlank c && c != 'İ' && lowercaseRuns.all fun run => (run.image? c.toNat).isNone) =
        true := by
  decide +kernel

variable {c : Char}

theorem isSettled_of_mem_untabled
    (hc : c ∈ untabled) :
    IsSettled c := by
  have hall := List.all_eq_true.mp untabled_are_settled c hc
  simp only [Bool.and_eq_true, bne_iff_ne, List.all_eq_true, Option.isNone_iff_eq_none] at hall
  exact ⟨hall.2, hall.1.2⟩

theorem isBlank_of_mem_untabled
    (hc : c ∈ untabled) :
    isBlank c = false := by
  have hall := List.all_eq_true.mp untabled_are_settled c hc
  simp only [Bool.and_eq_true, Bool.not_eq_true'] at hall
  exact hall.1.1

end Untabled

end Text
end AccountMigration
