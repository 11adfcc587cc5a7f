import AccountMigration.Password
import AccountMigration.Proofs.Text.Trim

/-!
# Algorithms of trimmed hashes

Some algorithms mark the beginning of their hashes.  Blanks at the end of a hash change neither the
mark nor the number of digits, but blanks in front of a mark hide it: such a hash is taken for a
bare digest, and the hash without the blanks is not.  No other hash is taken for anything else once
it is trimmed.

* `HashAlgorithm.isMarked`: whether a hash begins with the mark of an algorithm.
* `HashAlgorithm.HidesMark`: there are blanks in front of the mark of a hash.
* `HashAlgorithm.ofHash_trim_iff`: a hash has the algorithm of the trimmed hash unless it hides
  its mark.
* `HashAlgorithm.ofSample_congr`: the algorithm of a sample depends on those of its hashes only.
-/

namespace AccountMigration

open Text

namespace Text

/-- Blanks are no part of what is counted, so trimming does not change the count. -/
theorem countP_trimChars
    {p : Char → Bool}
    (hp : ∀ c, isBlank c = true → ¬ p c = true)
    (cs : List Char) :
    (trimChars cs).countP p = cs.countP p := by
  have hfront : ∀ ds : List Char, (trimStart ds).countP p = ds.countP p := by
    intro ds
    have hdropped : (ds.takeWhile isBlank).countP p = 0 :=
      List.countP_eq_zero.mpr fun c hc => hp c (List.mem_takeWhile_imp hc)
    conv_rhs => rw [← List.takeWhile_append_dropWhile (p := isBlank) (l := ds)]
    rw [List.countP_append, hdropped, Nat.zero_add, trimStart]
  rw [trimChars, trimEnd, List.countP_reverse, hfront, List.countP_reverse, hfront]

/-- A word without blanks begins a text exactly when it begins the text without the blanks at its
end. -/
theorem prefix_trimEnd_iff
    {word cs : List Char}
    (hword : ∀ c ∈ word, isBlank c = false) :
    word <+: trimEnd cs ↔ word <+: cs := by
  constructor
  · exact fun h => h.trans (List.rdropWhile_prefix isBlank cs)
  · rintro ⟨rest, rfl⟩
    exact ⟨trimEnd rest, (trimEnd_append_of_no_blank hword rest).symm⟩

theorem not_isHexDigit_of_isBlank
    {c : Char}
    (hc : isBlank c = true) :
    ¬ isHexDigit c = true := by
  intro hdigit
  have hrange : (48 ≤ c.toNat ∧ c.toNat ≤ 57) ∨ (97 ≤ c.toNat ∧ c.toNat ≤ 102) ∨
      (65 ≤ c.toNat ∧ c.toNat ≤ 70) := by
    unfold isHexDigit hexValue? at hdigit
    split at hdigit
    · next h => exact Or.inl h
    · split at hdigit
      · next h => exact Or.inr (Or.inl h)
      · split at hdigit
        · next h => exact Or.inr (Or.inr h)
        · cases hdigit
  simp [isBlank, blankRanges, CodeRange.contains] at hc
  omega

end Text

namespace HashAlgorithm

/-- The words that mark the beginning of a hash. -/
def marks : List String :=
  ["$2a$", "$2b$", "$2y$", "$argon2", "$scrypt", "pbkdf2"]

/-- Whether a hash begins with the mark of an algorithm. -/
def isMarked
    (hash : List Char) : Bool :=
  marks.any (startsWith · hash)

/-- There are blanks in front of the mark of a hash. -/
def HidesMark
    (hash : String) : Prop :=
  hash.toList.head?.any isBlank = true ∧ isMarked (trimChars hash.toList) = true

instance
    (hash : String) : Decidable (HidesMark hash) :=
  inferInstanceAs (Decidable (_ ∧ _))

theorem isBlank_of_mem_mark
    {word : String}
    (hword : word ∈ marks) :
    ∀ c ∈ word.toList, isBlank c = false := by
  have hall : ∀ mark ∈ marks, (mark.toList.all fun c => !isBlank c) = true := by
    decide
  intro c hc
  simpa using List.all_eq_true.mp (hall word hword) c hc

theorem startsAsBcrypt_eq
    (cs : List Char) :
    startsAsBcrypt cs =
      (startsWith "$2a$" cs || startsWith "$2b$" cs || startsWith "$2y$" cs) := by
  unfold startsAsBcrypt
  split
  · simp [startsWith, isBcryptVersion, Bool.beq_eq_decide_eq, List.isPrefixOf, eq_comm]
  · next hother =>
    have hnone : ∀ version, ¬ ['$', '2', version, '$'] <+: cs := by
      rintro version ⟨rest, rfl⟩
      exact hother version rest rfl
    symm
    rw [Bool.or_eq_false_iff, Bool.or_eq_false_iff]
    simp only [startsWith, ← Bool.not_eq_true, List.isPrefixOf_iff_prefix]
    exact ⟨⟨hnone 'a', hnone 'b'⟩, hnone 'y'⟩

/-- The algorithm of a hash depends on the marks that it begins with and on its digits. -/
theorem ofChars_congr
    {cs ds : List Char}
    (hmarks : ∀ word ∈ marks, startsWith word cs = startsWith word ds)
    (hdigits : cs.countP isHexDigit = ds.countP isHexDigit) :
    ofChars cs = ofChars ds := by
  simp only [marks, List.forall_mem_cons] at hmarks
  obtain ⟨ha, hb, hy, hargon, hscrypt, hpbkdf, -⟩ := hmarks
  simp only [ofChars, startsAsBcrypt_eq, ha, hb, hy, hargon, hscrypt, hpbkdf, hdigits]

/-- A hash without a mark is taken for a bare digest. -/
theorem ofChars_of_not_isMarked
    {cs : List Char}
    (hcs : isMarked cs = false) :
    ofChars cs = ofDigestLength (cs.countP isHexDigit) := by
  simp only [isMarked, marks, List.any_cons, List.any_nil, Bool.or_false,
    Bool.or_eq_false_iff] at hcs
  obtain ⟨ha, hb, hy, hargon, hscrypt, hpbkdf⟩ := hcs
  simp [ofChars, startsAsBcrypt_eq, ha, hb, hy, hargon, hscrypt, hpbkdf]

/-- A hash with a mark is not taken for a bare digest. -/
theorem ofChars_ne_ofDigestLength
    {cs : List Char}
    (hcs : isMarked cs = true)
    (length : Nat) :
    ofChars cs ≠ ofDigestLength length := by
  have hdigest : ofDigestLength length ∈ [sha256, md5, sha1, unknown] := by
    unfold ofDigestLength
    split <;> decide
  have hmarked : ofChars cs ∈ [bcrypt, argon2, scrypt, pbkdf2] := by
    simp only [isMarked, marks, List.any_cons, List.any_nil, Bool.or_false] at hcs
    unfold ofChars
    rw [startsAsBcrypt_eq]
    grind
  intro heq
  rw [heq] at hmarked
  revert hdigest hmarked
  cases ofDigestLength length <;> decide

theorem startsWith_trimEnd
    {word : String}
    (hword : word ∈ marks)
    (cs : List Char) :
    startsWith word (trimEnd cs) = startsWith word cs := by
  rw [Bool.eq_iff_iff, startsWith, startsWith, List.isPrefixOf_iff_prefix,
    List.isPrefixOf_iff_prefix, prefix_trimEnd_iff (isBlank_of_mem_mark hword)]

/-- A hash that begins with a mark does not begin with a blank. -/
theorem isMarked_eq_false_of_isBlank
    {cs : List Char}
    (hblank : cs.head?.any isBlank = true) :
    isMarked cs = false := by
  obtain ⟨c, hhead, hc⟩ := (Option.any_eq_true _ _).mp hblank
  rw [isMarked, List.any_eq_false]
  intro word hword hstarts
  rw [startsWith, List.isPrefixOf_iff_prefix] at hstarts
  obtain ⟨rest, rfl⟩ := hstarts
  have hsome : ∀ mark ∈ marks, mark.toList ≠ [] := by
    decide
  obtain ⟨d, tail, hmark⟩ := List.exists_cons_of_ne_nil (hsome word hword)
  have hd := isBlank_of_mem_mark hword d (by rw [hmark]; exact List.mem_cons_self)
  rw [hmark] at hhead
  cases hhead
  rw [hc] at hd
  cases hd

/-- A hash has the algorithm of the trimmed hash exactly when it does not hide its mark. -/
theorem ofHash_trim_iff
    (hash : String) :
    ofHash (trim hash) = ofHash hash ↔ ¬ HidesMark hash := by
  have hdigits := countP_trimChars (fun c => not_isHexDigit_of_isBlank) hash.toList
  rw [ofHash, ofHash, trim, String.toList_ofList]
  constructor
  · rintro heq ⟨hblank, hmarked⟩
    rw [ofChars_of_not_isMarked (isMarked_eq_false_of_isBlank hblank)] at heq
    exact ofChars_ne_ofDigestLength hmarked _ heq
  · intro hshown
    by_cases hblank : hash.toList.head?.any isBlank = true
    · -- neither the hash nor the trimmed hash has a mark
      have htrimmed : isMarked (trimChars hash.toList) = false := by
        rw [← Bool.not_eq_true]
        exact fun hmarked => hshown ⟨hblank, hmarked⟩
      rw [ofChars_of_not_isMarked htrimmed, hdigits,
        ofChars_of_not_isMarked (isMarked_eq_false_of_isBlank hblank)]
    · -- nothing is trimmed in front, and what is trimmed at the end is no part of a mark
      have hfront : trimStart hash.toList = hash.toList := by
        rw [trimStart_eq_self_iff]
        intro c hhead
        rw [← Bool.not_eq_true]
        exact fun hc => hblank ((Option.any_eq_true _ _).mpr ⟨c, hhead, hc⟩)
      refine ofChars_congr (fun word hword => ?_) hdigits
      rw [trimChars, hfront, startsWith_trimEnd hword]

/-- The algorithm of a sample depends on the algorithms of its hashes only. -/
theorem ofSample_congr
    {hashes others : List String}
    (hsame : hashes.map ofHash = others.map ofHash) :
    ofSample hashes = ofSample others := by
  have htally : ∀ sample : List String,
      tally sample = (sample.map ofHash).foldl (fun counts a => count a counts) [] := by
    intro sample
    rw [tally, List.foldl_map]
  rw [ofSample, ofSample, htally, htally, hsame]

end HashAlgorithm
end AccountMigration
