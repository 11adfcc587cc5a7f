import AccountMigration.Proofs.Text.CaseTable
import AccountMigration.Proofs.Text.Trim

/-!
# Text in lower case

Lower casing is the full mapping of Unicode: each character has a mapping of its own, except for
the capital sigma, which depends on its neighbours.  Everything that it maps to is settled, so that
lower casing again changes nothing, and what stands at the ends of a text is not blank when the
text has no blanks there.

* `Text.MeetsCased` and `Text.FinalSigma`: the condition for a final sigma, said by the characters
  around it.
* `Text.Lowers` and `Text.LowersTo`: the mapping of a character between its neighbours, and of a
  text.
* `Text.lowercase_eq_iff`: lower casing is that mapping.
* `Text.lowercase_lowercase`: text in lower case stays as it is.
* `Text.hasNoBlankEnds_lowercase`: trimmed text is trimmed in lower case too.
-/

namespace AccountMigration
namespace Text

/-- Behind characters that are case-ignorable stands a cased one. -/
def MeetsCased
    (cs : List Char) : Prop :=
  ∃ ignored c rest,
    cs = ignored ++ c :: rest ∧
    (∀ d ∈ ignored, isCaseIgnorable d = true) ∧
    isCaseIgnorable c = false ∧
    isCased c = true

/-- A cased character stands in front and none behind, where case-ignorable characters are looked
through. -/
def FinalSigma
    (front back : List Char) : Prop :=
  MeetsCased front.reverse ∧ ¬ MeetsCased back

/-- The full mapping of a character between the characters in front of it and behind it. -/
inductive Lowers
    (front : List Char) : Char → List Char → List Char → Prop
  | finalSigma
      {back : List Char}
      (hfinal : FinalSigma front back) :
      Lowers front 'Σ' back ['ς']
  | sigma
      {back : List Char}
      (hinner : ¬ FinalSigma front back) :
      Lowers front 'Σ' back ['σ']
  | dotted
      {back : List Char} :
      Lowers front 'İ' back ['i', '\u0307']
  | mapped
      {back : List Char}
      {c d : Char}
      (hsigma : c ≠ 'Σ')
      {run : CaseRun}
      (hrun : run ∈ lowercaseRuns)
      (himage : run.image? c.toNat = some d.toNat) :
      Lowers front c back [d]
  | settled
      {back : List Char}
      {c : Char}
      (hsettled : IsSettled c) :
      Lowers front c back [c]

/-- The full mapping of a text that stands behind other characters. -/
inductive LowersTo : List Char → List Char → List Char → Prop
  | nil
      {front : List Char} :
      LowersTo front [] []
  | cons
      {front : List Char}
      {c : Char}
      {back piece rest : List Char}
      (hpiece : Lowers front c back piece)
      (hrest : LowersTo (front ++ [c]) back rest) :
      LowersTo front (c :: back) (piece ++ rest)

section Context

theorem startsCased_cons
    (c : Char)
    (cs : List Char) :
    startsCased (c :: cs) = if isCaseIgnorable c then startsCased cs else isCased c := by
  unfold startsCased
  by_cases hc : isCaseIgnorable c = true
  · rw [List.dropWhile_cons_of_pos hc, if_pos hc]
  · rw [List.dropWhile_cons_of_neg hc, if_neg hc]

theorem meetsCased_cons_of_ignorable
    {c : Char}
    (hc : isCaseIgnorable c = true)
    {cs : List Char} :
    MeetsCased (c :: cs) ↔ MeetsCased cs := by
  constructor
  · rintro ⟨ignored, d, rest, hcs, hignored, hd, hcased⟩
    rcases List.cons_eq_append_iff.mp hcs with ⟨-, hhead⟩ | ⟨ignored', rfl, rfl⟩
    · rw [List.cons.injEq] at hhead
      rw [hhead.1, hc] at hd
      cases hd
    · exact ⟨ignored', d, rest, rfl, fun e he => hignored e (List.mem_cons_of_mem c he), hd, hcased⟩
  · rintro ⟨ignored, d, rest, rfl, hignored, hd, hcased⟩
    refine ⟨c :: ignored, d, rest, rfl, ?_, hd, hcased⟩
    rintro e he
    rcases List.mem_cons.mp he with rfl | he
    · exact hc
    · exact hignored e he

theorem meetsCased_cons_of_not_ignorable
    {c : Char}
    (hc : isCaseIgnorable c = false)
    {cs : List Char} :
    MeetsCased (c :: cs) ↔ isCased c = true := by
  constructor
  · rintro ⟨ignored, d, rest, hcs, hignored, -, hcased⟩
    rcases List.cons_eq_append_iff.mp hcs with ⟨rfl, hhead⟩ | ⟨ignored', rfl, -⟩
    · rw [List.cons.injEq] at hhead
      rwa [← hhead.1]
    · rw [hignored c List.mem_cons_self] at hc
      cases hc
  · intro hcased
    exact ⟨[], c, cs, rfl, fun d hd => absurd hd List.not_mem_nil, hc, hcased⟩

theorem startsCased_iff
    (cs : List Char) :
    startsCased cs = true ↔ MeetsCased cs := by
  induction cs with
  | nil =>
      constructor
      · intro h
        cases h
      · rintro ⟨ignored, c, rest, hcs, -⟩
        simp at hcs
  | cons c cs ih =>
      rw [startsCased_cons]
      by_cases hc : isCaseIgnorable c = true
      · rw [if_pos hc, ih, meetsCased_cons_of_ignorable hc]
      · rw [if_neg hc, meetsCased_cons_of_not_ignorable (Bool.not_eq_true _ ▸ hc)]

theorem endsWord_iff
    (front back : List Char) :
    endsWord front.reverse back = true ↔ FinalSigma front back := by
  rw [endsWord, Bool.and_eq_true, Bool.not_eq_true', ← Bool.not_eq_true, startsCased_iff,
    startsCased_iff, FinalSigma]

end Context

section Mapping

variable {front cs back piece out : List Char} {c : Char}

/-- A settled character is left as it is between any others. -/
theorem lowerBetween_of_settled
    (hc : IsSettled c)
    (before after : List Char) :
    lowerBetween before c after = [c] := by
  rw [lowerBetween, if_neg hc.ne_sigma, if_neg hc.undotted, lowerChar_of_unmapped hc.unmapped]

/-- Every character has the mapping that lower casing gives it. -/
theorem lowers_lowerBetween
    (front : List Char)
    (c : Char)
    (back : List Char) :
    Lowers front c back (lowerBetween front.reverse c back) := by
  unfold lowerBetween
  split
  · next hsigma =>
    subst hsigma
    split
    · next hends => exact .finalSigma ((endsWord_iff front back).mp hends)
    · next hends => exact .sigma fun hfinal => hends ((endsWord_iff front back).mpr hfinal)
  · next hsigma =>
    split
    · next hdotted =>
      subst hdotted
      exact .dotted
    · next hdotted =>
      rcases mapped_or_unmapped c with ⟨run, hrun, image, himage⟩ | hunmapped
      · rw [lowerChar_of_image hrun himage]
        exact .mapped hsigma hrun (by rw [toNat_ofNat_image hrun himage, himage])
      · rw [lowerChar_of_unmapped hunmapped]
        exact .settled ⟨hunmapped, hdotted⟩

/-- A character has no other mapping. -/
theorem Lowers.eq_lowerBetween
    (hlowers : Lowers front c back piece) :
    piece = lowerBetween front.reverse c back := by
  cases hlowers with
  | finalSigma hfinal =>
      simp [lowerBetween, (endsWord_iff front back).mpr hfinal]
  | sigma hinner =>
      have hends : ¬ endsWord front.reverse back = true :=
        fun h => hinner ((endsWord_iff front back).mp h)
      simp [lowerBetween, hends]
  | dotted =>
      rfl
  | @mapped _ _ d hsigma run hrun himage =>
      have hdotted : c ≠ 'İ' := by
        rintro rfl
        rw [unmapped_dotted run hrun] at himage
        cases himage
      rw [lowerBetween, if_neg hsigma, if_neg hdotted, lowerChar_of_image hrun himage,
        Char.ofNat_toNat]
  | settled hsettled =>
      exact (lowerBetween_of_settled hsettled front.reverse back).symm

theorem lowersTo_iff :
    LowersTo front cs out ↔ out = lowerFrom front.reverse cs := by
  constructor
  · intro hlowers
    induction hlowers with
    | nil =>
        rfl
    | cons hpiece hrest ih =>
        rw [lowerFrom_cons, hpiece.eq_lowerBetween, ih, List.reverse_concat]
  · rintro rfl
    induction cs generalizing front with
    | nil =>
        exact .nil
    | cons c back ih =>
        have hrest : LowersTo (front ++ [c]) back (lowerFrom (front ++ [c]).reverse back) := ih
        rw [List.reverse_concat] at hrest
        exact .cons (lowers_lowerBetween front c back) hrest

/-- The lower case of a text is its full mapping. -/
theorem lowercase_eq_iff
    {s t : String} :
    lowercase s = t ↔ LowersTo [] s.toList t.toList := by
  rw [lowersTo_iff, List.reverse_nil, lowercase, ← String.toList_inj, String.toList_ofList, eq_comm]

-- the same letter inside a word and at its end, and one letter that becomes two characters
example :
    lowercase "ΣΟΦΟΣ İ" = "σοφος i\u0307" := by
  decide +kernel

theorem lowersTo_lowercase
    (s : String) :
    LowersTo [] s.toList (lowercase s).toList :=
  lowercase_eq_iff.mp rfl

end Mapping

section Settled

variable {front cs back piece out : List Char} {c : Char}

theorem Lowers.isSettled
    (hlowers : Lowers front c back piece) :
    ∀ d ∈ piece, IsSettled d := by
  cases hlowers with
  | finalSigma | sigma | dotted =>
      intro d hd
      refine isSettled_of_mem_untabled ?_
      simp_all [untabled]
  | mapped _ hrun himage =>
      intro d hd
      have hsettled := isSettled_ofNat_image hrun himage
      rwa [Char.ofNat_toNat, ← List.mem_singleton.mp hd] at hsettled
  | settled hsettled =>
      intro d hd
      rwa [List.mem_singleton.mp hd]

theorem LowersTo.isSettled
    (hlowers : LowersTo front cs out) :
    ∀ d ∈ out, IsSettled d := by
  induction hlowers with
  | nil =>
      exact fun d hd => absurd hd List.not_mem_nil
  | cons hpiece _ ih =>
      intro d hd
      rcases List.mem_append.mp hd with hd | hd
      · exact hpiece.isSettled d hd
      · exact ih d hd

theorem lowersTo_of_settled
    (hcs : ∀ c ∈ cs, IsSettled c) :
    LowersTo front cs cs := by
  induction cs generalizing front with
  | nil =>
      exact .nil
  | cons c back ih =>
      exact .cons (.settled (hcs c List.mem_cons_self))
        (ih fun d hd => hcs d (List.mem_cons_of_mem c hd))

/-- Text in lower case stays as it is. -/
@[simp] theorem lowercase_lowercase
    (s : String) :
    lowercase (lowercase s) = lowercase s :=
  lowercase_eq_iff.mpr (lowersTo_of_settled (lowersTo_lowercase s).isSettled)

end Settled

section Ends

variable {front cs back piece out : List Char} {c : Char}

theorem Lowers.ne_nil
    (hlowers : Lowers front c back piece) :
    piece ≠ [] := by
  cases hlowers <;> exact List.cons_ne_nil _ _

theorem Lowers.not_isBlank
    (hlowers : Lowers front c back piece)
    (hc : isBlank c = false) :
    ∀ d ∈ piece, isBlank d = false := by
  cases hlowers with
  | finalSigma | sigma | dotted =>
      intro d hd
      refine isBlank_of_mem_untabled ?_
      simp_all [untabled]
  | mapped _ hrun himage =>
      intro d hd
      have hblank := isBlank_ofNat_image hrun himage
      rwa [Char.ofNat_toNat, ← List.mem_singleton.mp hd] at hblank
  | settled =>
      intro d hd
      rwa [List.mem_singleton.mp hd]

theorem LowersTo.eq_nil_iff
    (hlowers : LowersTo front cs out) :
    out = [] ↔ cs = [] := by
  cases hlowers with
  | nil =>
      rfl
  | cons hpiece =>
      simp [hpiece.ne_nil]

/-- Lower casing puts no blank in front of a text. -/
theorem LowersTo.head
    (hlowers : LowersTo front cs out)
    (hcs : ∀ c ∈ cs.head?, isBlank c = false) :
    ∀ d ∈ out.head?, isBlank d = false := by
  cases hlowers with
  | nil =>
      exact hcs
  | @cons _ c _ _ _ hpiece _ =>
      intro d hd
      rw [List.head?_append_of_ne_nil _ hpiece.ne_nil] at hd
      exact hpiece.not_isBlank (hcs c rfl) d (List.mem_of_mem_head? hd)

/-- Lower casing puts no blank behind a text. -/
theorem LowersTo.last
    (hlowers : LowersTo front cs out)
    (hcs : ∀ c ∈ cs.getLast?, isBlank c = false) :
    ∀ d ∈ out.getLast?, isBlank d = false := by
  induction hlowers with
  | nil =>
      exact hcs
  | @cons _ c back piece rest hpiece hrest ih =>
      intro d hd
      cases back with
      | nil =>
          rw [hrest.eq_nil_iff.mpr rfl, List.append_nil] at hd
          exact hpiece.not_isBlank (hcs c rfl) d (List.mem_of_getLast? hd)
      | cons next after =>
          have hne : rest ≠ [] :=
            fun h => List.cons_ne_nil next after (hrest.eq_nil_iff.mp h)
          rw [List.getLast?_append_of_ne_nil _ hne] at hd
          exact ih (fun e he => hcs e (by rwa [List.getLast?_cons_cons])) d hd

/-- Trimmed text is trimmed in lower case too. -/
theorem hasNoBlankEnds_lowercase
    {s : String}
    (hs : HasNoBlankEnds s.toList) :
    HasNoBlankEnds (lowercase s).toList where
  head := (lowersTo_lowercase s).head hs.head
  last := (lowersTo_lowercase s).last hs.last

end Ends

end Text
end AccountMigration
