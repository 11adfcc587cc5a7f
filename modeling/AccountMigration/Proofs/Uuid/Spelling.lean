import AccountMigration.Proofs.Uuid
import Mathlib.Data.List.Forall2
import Mathlib.Data.Nat.Digits.Lemmas

/-!
# The spellings of a UUID

A UUID is a number of 128 bits.  It is spelled with 32 hexadecimal digits in either case: by
themselves, in five groups with hyphens between them, or in groups that stand in braces or behind
the URN scheme.  A text is read as a UUID exactly when it is one of its spellings, and of these the
canonical one has groups of lower-case digits.

* `Uuid.value` and `Uuid.canonicalForm`: the number of a UUID, and how a number is written.
* `Uuid.toChars_eq_canonicalForm`: a UUID is written as its number is.
* `Uuid.InGroups` and `Uuid.Spells`: the spellings.
* `Uuid.ofChars?_eq_some_iff`: exactly the spellings are read.
-/

namespace AccountMigration

open Text

/-! ## Digits -/

namespace Text

/-- A character is the hexadecimal digit of a value, in lower or in upper case. -/
def IsHexDigitOf
    (c : Char)
    (value : Nat) : Prop :=
  value < 16 ∧ (c = hexDigit value ∨ c = upperHexDigit value)

theorem hexValue?_eq_some_iff
    {c : Char}
    {value : Nat} :
    hexValue? c = some value ↔ IsHexDigitOf c value := by
  constructor
  · intro hvalue
    unfold hexValue? at hvalue
    split at hvalue
    · next hrange =>
      have hlower : 48 ≤ c.toNat := hrange.1
      have hupper : c.toNat ≤ 57 := hrange.2
      obtain rfl := Option.some.inj hvalue
      refine ⟨by omega, Or.inl ?_⟩
      rw [hexDigit, if_pos (by omega), Nat.add_sub_cancel' hlower, Char.ofNat_toNat]
    · split at hvalue
      · next hrange =>
        have hlower : 97 ≤ c.toNat := hrange.1
        have hupper : c.toNat ≤ 102 := hrange.2
        obtain rfl := Option.some.inj hvalue
        refine ⟨by omega, Or.inl ?_⟩
        rw [hexDigit, if_neg (by omega), Nat.add_sub_cancel' (by omega), Char.ofNat_toNat]
      · split at hvalue
        · next hrange =>
          have hlower : 65 ≤ c.toNat := hrange.1
          have hupper : c.toNat ≤ 70 := hrange.2
          obtain rfl := Option.some.inj hvalue
          refine ⟨by omega, Or.inr ?_⟩
          rw [upperHexDigit, if_neg (by omega), Nat.add_sub_cancel' (by omega), Char.ofNat_toNat]
        · cases hvalue
  · rintro ⟨hvalue, rfl | rfl⟩
    · exact hexValue?_hexDigit hvalue
    · exact hexValue?_upperHexDigit hvalue

/-- Digits are read one by one. -/
theorem mapM_hexValue?_eq_some_iff
    {cs : List Char}
    {values : List Nat} :
    cs.mapM hexValue? = some values ↔ List.Forall₂ IsHexDigitOf cs values := by
  induction cs generalizing values with
  | nil =>
      rw [List.mapM_nil, List.forall₂_nil_left_iff]
      exact ⟨fun h => (Option.some.inj h).symm, fun h => h ▸ rfl⟩
  | cons c rest ih =>
      rw [List.mapM_cons, List.forall₂_cons_left_iff]
      simp only [Option.bind_eq_bind, Option.bind_eq_some_iff, hexValue?_eq_some_iff, ih]
      constructor
      · rintro ⟨value, hvalue, others, hothers, hsame⟩
        exact ⟨value, others, hvalue, hothers, (Option.some.inj hsame).symm⟩
      · rintro ⟨value, others, hvalue, hothers, rfl⟩
        exact ⟨value, hvalue, others, hothers, rfl⟩

theorem digitChar_eq_hexDigit
    {value : Nat}
    (h : value < 16) :
    value.digitChar = hexDigit value := by
  have all : ∀ v ∈ List.range 16, v.digitChar = hexDigit v := by
    decide
  exact all value (List.mem_range.mpr h)

theorem lowerAsciiChar_hexDigit
    {value : Nat}
    (h : value < 16) :
    lowerAsciiChar (hexDigit value) = hexDigit value := by
  have all : ∀ v ∈ List.range 16, lowerAsciiChar (hexDigit v) = hexDigit v := by
    decide
  exact all value (List.mem_range.mpr h)

theorem leftpad_concat
    (n : Nat)
    (a : Char)
    (cs : List Char)
    (c : Char) :
    (cs ++ [c]).leftpad (n + 1) a = cs.leftpad n a ++ [c] := by
  simp [List.leftpad, Nat.add_sub_add_right]

/-- The last digit of a number stands behind those of its sixteenth, where both are padded. -/
theorem toDigits_leftpad_succ
    {n digit width : Nat}
    (hdigit : digit < 16)
    (hwidth : 0 < width) :
    (Nat.toDigits 16 (digit + 16 * n)).leftpad (width + 1) '0' =
      (Nat.toDigits 16 n).leftpad width '0' ++ [hexDigit digit] := by
  rw [← digitChar_eq_hexDigit hdigit]
  rcases Nat.eq_zero_or_pos n with rfl | hn
  · -- a padded zero is all padding
    have hzero : (Nat.toDigits 16 0).leftpad width '0' = ([] : List Char).leftpad width '0' := by
      obtain ⟨k, rfl⟩ := Nat.exists_eq_succ_of_ne_zero (Nat.ne_of_gt hwidth)
      have hdigits : Nat.toDigits 16 0 = ['0'] := Nat.toDigits_of_lt_base (by decide)
      rw [hdigits]
      simp [List.leftpad, List.replicate_succ']
    have hsum : digit + 16 * 0 = digit := by omega
    rw [hzero, ← leftpad_concat, hsum, Nat.toDigits_of_lt_base hdigit]
    rfl
  · have hsixteenth : (digit + 16 * n) / 16 = n := by omega
    have hrest : (digit + 16 * n) % 16 = digit := by omega
    rw [Nat.toDigits_of_base_le (by decide) (by omega), hsixteenth, hrest, leftpad_concat]

/-- Digits are those of the number that they stand for, with zeros in front. -/
theorem map_hexDigit_eq_leftpad
    {values : List Nat}
    (hne : values ≠ [])
    (h : ∀ v ∈ values, v < 16) :
    values.map hexDigit =
      (Nat.toDigits 16 (Nat.ofDigits 16 values.reverse)).leftpad values.length '0' := by
  induction values using List.reverseRecOn with
  | nil =>
      exact absurd rfl hne
  | append_singleton front last ih =>
      have hlast : last < 16 := h last (List.mem_append_right _ (List.mem_singleton_self last))
      have hvalues : ∀ v ∈ front, v < 16 := fun v hv => h v (List.mem_append_left _ hv)
      rw [List.map_append, List.map_singleton, List.reverse_append, List.reverse_singleton,
        List.singleton_append, Nat.ofDigits_cons, List.length_append, List.length_singleton]
      by_cases hfront : front = []
      · have hsum : last + 16 * 0 = last := by omega
        rw [hfront, List.reverse_nil, Nat.ofDigits_nil, hsum, Nat.toDigits_of_lt_base hlast,
          digitChar_eq_hexDigit hlast]
        rfl
      · rw [ih hfront hvalues, toDigits_leftpad_succ hlast (List.length_pos_of_ne_nil hfront)]

end Text

/-! ## Numbers -/

namespace Uuid

/-- The number of a UUID. -/
def value
    (u : Uuid) : BitVec 128 :=
  BitVec.ofNat 128 (Nat.ofDigits 16 u.digits.reverse)

/-- The canonical form of a number: its lower-case hexadecimal digits, with zeros in front up to 32
of them, in groups of 8, 4, 4, 4 and 12 with hyphens between them. -/
def canonicalForm
    (n : BitVec 128) : List Char :=
  let cs := (Nat.toDigits 16 n.toNat).leftpad 32 '0'
  grouped (cs.take 8) ((cs.drop 8).take 4) ((cs.drop 12).take 4) ((cs.drop 16).take 4) (cs.drop 20)

theorem toNat_value
    (u : Uuid) :
    u.value.toNat = Nat.ofDigits 16 u.digits.reverse := by
  have hbound : Nat.ofDigits 16 u.digits.reverse < 16 ^ u.digits.reverse.length :=
    Nat.ofDigits_lt_base_pow_length (by decide) fun d hd => u.digit_lt d (List.mem_reverse.mp hd)
  rw [List.length_reverse, u.length_digits] at hbound
  have hbits : 16 ^ 32 = 2 ^ 128 := by norm_num
  rw [value, BitVec.toNat_ofNat, Nat.mod_eq_of_lt (hbits ▸ hbound)]

theorem hexChars_eq_leftpad
    (u : Uuid) :
    u.hexChars = (Nat.toDigits 16 u.value.toNat).leftpad 32 '0' := by
  have hne : u.digits ≠ [] := List.ne_nil_of_length_pos (by rw [u.length_digits]; decide)
  rw [hexChars, map_hexDigit_eq_leftpad hne u.digit_lt, u.length_digits, toNat_value]

/-- A UUID is written as its number is. -/
theorem toChars_eq_canonicalForm
    (u : Uuid) :
    u.toChars = canonicalForm u.value := by
  rw [toChars_eq_grouped, canonicalForm, hexChars_eq_leftpad]

/-- The digits of the canonical spelling are in lower case. -/
theorem lowerAscii_toText
    (u : Uuid) :
    lowerAscii u.toText = u.toText := by
  have hlower : ∀ c ∈ u.toChars, lowerAsciiChar c = c := by
    intro c hc
    rcases mem_toChars hc with rfl | hhex
    · decide
    · obtain ⟨d, hd, rfl⟩ := List.mem_map.mp hhex
      exact lowerAsciiChar_hexDigit (u.digit_lt d hd)
  rw [lowerAscii, toText, String.toList_ofList, List.map_congr_left hlower, List.map_id']

/-! ## Spellings -/

/-- Five groups of digits of a UUID, with hyphens between them. -/
inductive InGroups
    (u : Uuid) :
    List Char → Prop
  | intro
      {a b c d e : List Char}
      (ha : a.length = 8)
      (hb : b.length = 4)
      (hc : c.length = 4)
      (hd : d.length = 4)
      (he : e.length = 12)
      (hdigits : List.Forall₂ IsHexDigitOf (a ++ b ++ c ++ d ++ e) u.digits) :
      InGroups u (grouped a b c d e)

/-- The spellings of a UUID: the digits by themselves, in groups, in groups between braces, and in
groups behind the URN scheme, where the scheme is in either case too. -/
inductive Spells
    (u : Uuid) :
    List Char → Prop
  | plain
      {cs : List Char}
      (hdigits : List.Forall₂ IsHexDigitOf cs u.digits) :
      Spells u cs
  | hyphenated
      {cs : List Char}
      (hgroups : InGroups u cs) :
      Spells u cs
  | braced
      {cs : List Char}
      (hgroups : InGroups u cs) :
      Spells u ('\x7b' :: cs ++ ['\x7d'])
  | urn
      {scheme cs : List Char}
      (hscheme : scheme.map lowerAsciiChar = "urn:uuid:".toList)
      (hgroups : InGroups u cs) :
      Spells u (scheme ++ cs)

section Reading

variable {u : Uuid} {cs : List Char}

theorem ofDigits?_eq_some_iff :
    ofDigits? cs = some u ↔ List.Forall₂ IsHexDigitOf cs u.digits := by
  rw [ofDigits?, ← mapM_hexValue?_eq_some_iff]
  cases hvalues : cs.mapM hexValue? with
  | none =>
      simp only [reduceCtorEq]
  | some values =>
      constructor
      · intro hread
        simp only at hread
        split at hread
        · rw [← Option.some.inj hread]
        · cases hread
      · intro hsame
        obtain rfl := Option.some.inj hsame
        simp only [dif_pos (show u.digits.length = 32 ∧ ∀ d ∈ u.digits, d < 16 from
          ⟨u.length_digits, u.digit_lt⟩)]

theorem InGroups.length_eq
    (hgroups : InGroups u cs) :
    cs.length = 36 := by
  obtain ⟨ha, hb, hc, hd, he, -⟩ := hgroups
  simp [grouped, ha, hb, hc, hd, he]

/-- What stands in front of a place and behind it, when the character at the place is known. -/
theorem drop_eq_cons
    {n : Nat}
    {c : Char}
    (h : cs[n]? = some c) :
    cs.drop n = c :: cs.drop (n + 1) := by
  obtain ⟨hn, hget⟩ := List.getElem?_eq_some_iff.mp h
  rw [List.drop_eq_getElem_cons hn, hget]

/-- Text with hyphens at the right places consists of groups. -/
theorem eq_grouped
    (h8 : cs[8]? = some '-')
    (h13 : cs[13]? = some '-')
    (h18 : cs[18]? = some '-')
    (h23 : cs[23]? = some '-') :
    cs = grouped (cs.take 8) ((cs.drop 9).take 4) ((cs.drop 14).take 4) ((cs.drop 19).take 4)
      (cs.drop 24) := by
  -- each group reaches as far as the next hyphen
  have hgroup : ∀ k, cs[k + 4]? = some '-' →
      cs.drop k = (cs.drop k).take 4 ++ '-' :: cs.drop (k + 5) := by
    intro k hk
    rw [← drop_eq_cons hk, ← List.drop_drop, List.take_append_drop]
  have h9 : cs.drop 9 = (cs.drop 9).take 4 ++ '-' :: cs.drop 14 := hgroup 9 h13
  have h14 : cs.drop 14 = (cs.drop 14).take 4 ++ '-' :: cs.drop 19 := hgroup 14 h18
  have h19 : cs.drop 19 = (cs.drop 19).take 4 ++ '-' :: cs.drop 24 := hgroup 19 h23
  calc
    cs = cs.take 8 ++ cs.drop 8 := (List.take_append_drop 8 cs).symm
    _ = cs.take 8 ++ '-' :: cs.drop 9 := by rw [drop_eq_cons h8]
    _ = grouped (cs.take 8) ((cs.drop 9).take 4) ((cs.drop 14).take 4) ((cs.drop 19).take 4)
        (cs.drop 24) := by
      simp only [grouped, List.append_assoc, List.cons_append, ← h19, ← h14, ← h9]

theorem ungroup?_bind_eq_some_iff :
    (ungroup? cs).bind ofDigits? = some u ↔ InGroups u cs := by
  constructor
  · intro hread
    obtain ⟨digits, hungroup, hdigits⟩ := Option.bind_eq_some_iff.mp hread
    unfold ungroup? at hungroup
    split at hungroup
    · next hhyphens =>
      obtain ⟨hlength, h8, h13, h18, h23⟩ := hhyphens
      obtain rfl := Option.some.inj hungroup
      rw [ofDigits?_eq_some_iff] at hdigits
      rw [eq_grouped h8 h13 h18 h23]
      refine .intro ?_ ?_ ?_ ?_ ?_ hdigits <;> simp [hlength]
    · cases hungroup
  · rintro ⟨ha, hb, hc, hd, he, hdigits⟩
    rw [ungroup?_grouped ha hb hc hd he]
    exact ofDigits?_eq_some_iff.mpr hdigits

theorem unbrace?_eq_some_iff
    {inner : List Char} :
    unbrace? cs = some inner ↔ cs = '\x7b' :: inner ++ ['\x7d'] := by
  constructor
  · intro hbraces
    unfold unbrace? at hbraces
    split at hbraces
    · next rest =>
      split at hbraces
      · next hlast =>
        obtain ⟨front, rfl⟩ := List.getLast?_eq_some_iff.mp hlast
        rw [List.dropLast_concat] at hbraces
        rw [Option.some.inj hbraces]
        rfl
      · cases hbraces
    · cases hbraces
  · rintro rfl
    simp [unbrace?]

theorem afterScheme?_eq_some_iff
    {rest : List Char} :
    afterScheme? cs = some rest ↔
      ∃ scheme, scheme.map lowerAsciiChar = "urn:uuid:".toList ∧ cs = scheme ++ rest := by
  constructor
  · intro hafter
    rw [afterScheme?] at hafter
    split at hafter
    · next hscheme =>
      rw [← Option.some.inj hafter]
      exact ⟨_, hscheme, (List.take_append_drop _ cs).symm⟩
    · cases hafter
  · rintro ⟨scheme, hscheme, rfl⟩
    have hlength : "urn:uuid:".toList.length = scheme.length := by
      rw [← hscheme, List.length_map]
    rw [afterScheme?]
    simp only [hlength, List.take_left', List.drop_left', hscheme, if_true]

/-- A text is read as a UUID exactly when it is one of its spellings. -/
theorem ofChars?_eq_some_iff :
    ofChars? cs = some u ↔ Spells u cs := by
  constructor
  · intro hread
    unfold ofChars? at hread
    split at hread
    · exact .plain (ofDigits?_eq_some_iff.mp hread)
    · split at hread
      · exact .hyphenated (ungroup?_bind_eq_some_iff.mp hread)
      · split at hread
        · rw [Option.bind_assoc] at hread
          obtain ⟨inner, hbraces, hgroups⟩ := Option.bind_eq_some_iff.mp hread
          rw [unbrace?_eq_some_iff.mp hbraces]
          exact .braced (ungroup?_bind_eq_some_iff.mp hgroups)
        · split at hread
          · rw [Option.bind_assoc] at hread
            obtain ⟨rest, hafter, hgroups⟩ := Option.bind_eq_some_iff.mp hread
            obtain ⟨scheme, hscheme, rfl⟩ := afterScheme?_eq_some_iff.mp hafter
            exact .urn hscheme (ungroup?_bind_eq_some_iff.mp hgroups)
          · cases hread
  · intro hspells
    cases hspells with
    | plain hdigits =>
        have hlength : cs.length = 32 := hdigits.length_eq.trans u.length_digits
        rw [ofChars?, if_pos hlength]
        exact ofDigits?_eq_some_iff.mpr hdigits
    | hyphenated hgroups =>
        simp only [ofChars?, hgroups.length_eq]
        exact ungroup?_bind_eq_some_iff.mpr hgroups
    | @braced cs hgroups =>
        have hlength : ('\x7b' :: cs ++ ['\x7d']).length = 38 := by
          simp [hgroups.length_eq]
        simp only [ofChars?, hlength, unbrace?_eq_some_iff.mpr rfl]
        exact ungroup?_bind_eq_some_iff.mpr hgroups
    | @urn scheme cs hscheme hgroups =>
        have hlength : (scheme ++ cs).length = 45 := by
          rw [List.length_append, hgroups.length_eq, ← List.length_map lowerAsciiChar, hscheme]
          decide
        simp only [ofChars?, hlength, afterScheme?_eq_some_iff.mpr ⟨scheme, hscheme, rfl⟩]
        exact ungroup?_bind_eq_some_iff.mpr hgroups

end Reading

theorem ofText?_eq_some_iff
    {u : Uuid}
    {s : String} :
    ofText? s = some u ↔ Spells u s.toList :=
  ofChars?_eq_some_iff

/-- No text is a spelling of two UUIDs. -/
theorem Spells.unique
    {u w : Uuid}
    {cs : List Char}
    (hu : Spells u cs)
    (hw : Spells w cs) :
    u = w := by
  rw [← ofChars?_eq_some_iff] at hu hw
  exact Option.some.inj (hu.symm.trans hw)

end Uuid
end AccountMigration
