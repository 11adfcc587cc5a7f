import AccountMigration.Url.Percent

/-!
# Percent-encoded text reads back

What is percent-encoded with a set that holds the percent sign reads back as the bytes of the
text, so different texts have different encodings.

* `Percent.decode_encode`: decoding an encoded text gives its bytes.
* `Percent.encode_injective`: no two texts are encoded alike.
-/

namespace AccountMigration

open Text

/-- No two texts have the same bytes. -/
theorem Utf8.bytes_injective :
    Function.Injective Utf8.bytes := by
  intro s t h
  rw [← String.toByteArray_inj, ← String.ofList_toList (s := s), ← String.ofList_toList (s := t),
    String.toByteArray_ofList, String.toByteArray_ofList]
  exact congrArg List.toByteArray h

namespace Percent

/-- A character that is no percent sign stands for its own bytes. -/
theorem decode_cons_of_ne
    {c : Char}
    (hc : c ≠ '%')
    (rest : List Char) :
    decode (c :: rest) = Utf8.charBytes c ++ decode rest := by
  rw [decode]
  rintro a b tail rfl
  exact absurd rfl hc

theorem decode_encodeByte
    (byte : UInt8)
    (rest : List Char) :
    decode (encodeByte byte ++ rest) = byte :: decode rest := by
  have hbyte : byte.toNat < 256 := byte.toNat_lt
  have hhigh : hexValue? (upperHexDigit (byte.toNat / 16)) = some (byte.toNat / 16) :=
    hexValue?_upperHexDigit (by omega)
  have hlow : hexValue? (upperHexDigit (byte.toNat % 16)) = some (byte.toNat % 16) :=
    hexValue?_upperHexDigit (by omega)
  have hvalue : byte.toNat / 16 * 16 + byte.toNat % 16 = byte.toNat := by omega
  simp [encodeByte, decode, hhigh, hlow, hvalue]

theorem decode_encodeBytes
    (bytes : List UInt8)
    (rest : List Char) :
    decode (bytes.flatMap encodeByte ++ rest) = bytes ++ decode rest := by
  induction bytes with
  | nil =>
      simp
  | cons byte bytes ih =>
      rw [List.flatMap_cons, List.append_assoc, decode_encodeByte, ih, List.cons_append]

section Encode

variable {inSet : Char → Bool} (hpercent : inSet '%' = true)
include hpercent

theorem decode_encodeChar
    (c : Char)
    (rest : List Char) :
    decode (encodeChar inSet c ++ rest) = Utf8.charBytes c ++ decode rest := by
  unfold encodeChar
  split
  · exact decode_encodeBytes (Utf8.charBytes c) rest
  · -- a character that stays as it is cannot be the percent sign, which starts a byte
    rename_i hkept
    refine decode_cons_of_ne ?_ rest
    rintro rfl
    simp [hpercent] at hkept

/-- An encoded text reads back as the bytes of the text. -/
theorem decode_encode
    (cs : List Char) :
    decode (encode inSet cs) = cs.flatMap Utf8.charBytes := by
  induction cs with
  | nil =>
      rfl
  | cons c cs ih =>
      rw [encode, List.flatMap_cons, decode_encodeChar hpercent, ← encode, ih,
        List.flatMap_cons]

theorem encode_injective :
    Function.Injective (encode inSet) := by
  intro cs ds h
  have hbytes : cs.flatMap Utf8.charBytes = ds.flatMap Utf8.charBytes := by
    rw [← decode_encode hpercent, ← decode_encode hpercent, h]
  refine String.ofList_injective (Utf8.bytes_injective ?_)
  simpa [Utf8.bytes] using hbytes

end Encode

end Percent
end AccountMigration
