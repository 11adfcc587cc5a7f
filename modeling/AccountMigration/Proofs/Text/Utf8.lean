import AccountMigration.Text.Utf8

/-!
# Text in UTF-8 reads back

The bytes of a character are a lead, which tells how many bytes follow, and tails of six bits each.
Read one by one they give the character again, so the bytes of a text read back as the text.

* `Utf8.feed_more` and `Utf8.feed_last`: what a tail does to the sequence in front of it.
* `Utf8.feed_two`, `Utf8.feed_three` and `Utf8.feed_four`: the sequences that leads open.
* `Utf8.symbolsFrom_charBytes`: the bytes of one character, with others behind them.
* `Utf8.symbols_bytes`: the bytes of a text.
-/

namespace AccountMigration
namespace Utf8

theorem toNat_ofNat_of_lt
    {n : Nat}
    (hn : n < 256) :
    (UInt8.ofNat n).toNat = n :=
  UInt8.toNat_ofNat_of_lt' hn

section Tail

variable {owed low high n : Nat} (bits : Nat)
  (hrange : low ≤ n % 64 + 128 ∧ n % 64 + 128 ≤ high)
include hrange

/-- A tail that is not the last one is added to the bits in front of it. -/
theorem feed_more
    (howed : 1 < owed) :
    feed (some ⟨owed, low, high, bits⟩) (.ofNat (n % 64 + 128)) =
      ⟨[], some ⟨owed - 1, 0x80, 0xBF, bits * 64 + n % 64⟩⟩ := by
  have hbyte : (UInt8.ofNat (n % 64 + 128)).toNat = n % 64 + 128 := toNat_ofNat_of_lt (by omega)
  rw [feed, extend, hbyte, if_pos hrange, if_neg (Nat.not_le.mpr howed), Nat.add_sub_cancel]

/-- The last tail completes the character. -/
theorem feed_last :
    feed (some ⟨1, low, high, bits⟩) (.ofNat (n % 64 + 128)) =
      ⟨[some (Char.ofNat (bits * 64 + n % 64))], none⟩ := by
  have hbyte : (UInt8.ofNat (n % 64 + 128)).toNat = n % 64 + 128 := toNat_ofNat_of_lt (by omega)
  rw [feed, extend, hbyte, if_pos hrange, if_pos (Nat.le_refl 1), Nat.add_sub_cancel]

end Tail

section Lead

variable {v : Nat}

theorem feed_one
    (hv : v ≤ 0x7F) :
    feed none (.ofNat v) = ⟨[some (Char.ofNat v)], none⟩ := by
  rw [feed, start, toNat_ofNat_of_lt (by omega), if_pos (by omega)]

theorem feed_two
    (hv : 0x7F < v ∧ v ≤ 0x7FF) :
    feed none (.ofNat (v / 64 % 32 + 192)) = ⟨[], some ⟨1, 0x80, 0xBF, v / 64⟩⟩ := by
  have hbyte : (UInt8.ofNat (v / 64 % 32 + 192)).toNat = v / 64 + 192 := by
    rw [toNat_ofNat_of_lt (by omega)]
    omega
  rw [feed, start, hbyte, if_neg (by omega), if_neg (by omega), if_pos (by omega),
    Nat.add_sub_cancel]

/-- The lead of three bytes.  What may follow it keeps out longer spellings and surrogates. -/
theorem feed_three
    (hv : 0x7FF < v ∧ v ≤ 0xFFFF)
    (hvalid : v < 0xD800 ∨ 0xDFFF < v) :
    ∃ low high,
      feed none (.ofNat (v / 4096 % 16 + 224)) = ⟨[], some ⟨2, low, high, v / 4096⟩⟩ ∧
      low ≤ v / 64 % 64 + 128 ∧ v / 64 % 64 + 128 ≤ high := by
  have hbyte : (UInt8.ofNat (v / 4096 % 16 + 224)).toNat = v / 4096 + 224 := by
    rw [toNat_ofNat_of_lt (by omega)]
    omega
  rw [feed, start, hbyte, if_neg (by omega), if_neg (by omega), if_neg (by omega),
    Nat.add_sub_cancel]
  by_cases hfirst : v / 4096 + 224 = 0xE0
  · exact ⟨0xA0, 0xBF, by rw [if_pos hfirst], by omega, by omega⟩
  · rw [if_neg hfirst]
    by_cases hsurrogate : v / 4096 + 224 = 0xED
    · exact ⟨0x80, 0x9F, by rw [if_pos hsurrogate], by omega, by omega⟩
    · exact ⟨0x80, 0xBF, by rw [if_neg hsurrogate, if_pos (by omega)], by omega, by omega⟩

/-- The lead of four bytes.  What may follow it keeps out longer spellings and what lies behind the
last character. -/
theorem feed_four
    (hv : 0xFFFF < v ∧ v < 0x110000) :
    ∃ low high,
      feed none (.ofNat (v / 262144 % 8 + 240)) = ⟨[], some ⟨3, low, high, v / 262144⟩⟩ ∧
      low ≤ v / 4096 % 64 + 128 ∧ v / 4096 % 64 + 128 ≤ high := by
  have hbyte : (UInt8.ofNat (v / 262144 % 8 + 240)).toNat = v / 262144 + 240 := by
    rw [toNat_ofNat_of_lt (by omega)]
    omega
  rw [feed, start, hbyte, if_neg (by omega), if_neg (by omega), if_neg (by omega),
    if_neg (by omega), if_neg (by omega), if_neg (by omega), Nat.add_sub_cancel]
  by_cases hfirst : v / 262144 + 240 = 0xF0
  · exact ⟨0x90, 0xBF, by rw [if_pos hfirst], by omega, by omega⟩
  · rw [if_neg hfirst]
    by_cases hinner : v / 262144 + 240 < 0xF4
    · exact ⟨0x80, 0xBF, by rw [if_pos hinner], by omega, by omega⟩
    · exact ⟨0x80, 0x8F, by rw [if_neg hinner, if_pos (by omega)], by omega, by omega⟩

end Lead

/-- A byte that completes a character, with other bytes behind it. -/
theorem symbolsFrom_complete
    {pending : Option Pending}
    {byte : UInt8}
    {symbol : Symbol}
    (hfeed : feed pending byte = ⟨[symbol], none⟩)
    (rest : List UInt8) :
    symbolsFrom pending (byte :: rest) = symbol :: symbolsFrom none rest := by
  cases pending <;> rw [symbolsFrom, hfeed] <;> rfl

/-- A byte that leaves a sequence open, with other bytes behind it. -/
theorem symbolsFrom_open
    {pending : Option Pending}
    {byte : UInt8}
    {next : Pending}
    (hfeed : feed pending byte = ⟨[], some next⟩)
    (rest : List UInt8) :
    symbolsFrom pending (byte :: rest) = symbolsFrom (some next) rest := by
  cases pending <;> rw [symbolsFrom, hfeed] <;> rfl

/-- The bytes of a character are read as the character. -/
theorem symbolsFrom_charBytes
    (c : Char)
    (rest : List UInt8) :
    symbolsFrom none (charBytes c ++ rest) = some c :: symbolsFrom none rest := by
  have hvalid : c.val.toNat < 0xD800 ∨ 0xDFFF < c.val.toNat ∧ c.val.toNat < 0x110000 := c.valid
  have hback : Char.ofNat c.val.toNat = c := Char.ofNat_toNat c
  unfold charBytes String.utf8EncodeChar
  generalize c.val.toNat = v at hvalid hback ⊢
  simp only
  by_cases hone : v ≤ 0x7F
  · rw [if_pos hone, List.singleton_append, symbolsFrom_complete (feed_one hone), hback]
  · rw [if_neg hone]
    by_cases htwo : v ≤ 0x7FF
    · have hlast := feed_last (v / 64) (show 0x80 ≤ v % 64 + 128 ∧ v % 64 + 128 ≤ 0xBF by omega)
      have hsum : v / 64 * 64 + v % 64 = v := by omega
      rw [hsum, hback] at hlast
      rw [if_pos htwo, List.cons_append, List.singleton_append,
        symbolsFrom_open (feed_two ⟨Nat.lt_of_not_le hone, htwo⟩), symbolsFrom_complete hlast]
    · rw [if_neg htwo]
      by_cases hthree : v ≤ 0xFFFF
      · obtain ⟨low, high, hlead, hrange⟩ :=
          feed_three ⟨Nat.lt_of_not_le htwo, hthree⟩ (by omega)
        have hmore := feed_more (v / 4096) hrange Nat.one_lt_two
        have hlast := feed_last (v / 4096 * 64 + v / 64 % 64)
          (show 0x80 ≤ v % 64 + 128 ∧ v % 64 + 128 ≤ 0xBF by omega)
        have hsum : (v / 4096 * 64 + v / 64 % 64) * 64 + v % 64 = v := by omega
        rw [hsum, hback] at hlast
        rw [if_pos hthree, List.cons_append, List.cons_append, List.singleton_append,
          symbolsFrom_open hlead, symbolsFrom_open hmore, symbolsFrom_complete hlast]
      · obtain ⟨low, high, hlead, hrange⟩ := feed_four (v := v) ⟨by omega, by omega⟩
        have hmore := feed_more (v / 262144) hrange (Nat.lt_succ_of_lt Nat.one_lt_two)
        have hmore' := feed_more (v / 262144 * 64 + v / 4096 % 64)
          (show 0x80 ≤ v / 64 % 64 + 128 ∧ v / 64 % 64 + 128 ≤ 0xBF by omega) Nat.one_lt_two
        have hlast := feed_last ((v / 262144 * 64 + v / 4096 % 64) * 64 + v / 64 % 64)
          (show 0x80 ≤ v % 64 + 128 ∧ v % 64 + 128 ≤ 0xBF by omega)
        have hsum : ((v / 262144 * 64 + v / 4096 % 64) * 64 + v / 64 % 64) * 64 + v % 64 = v := by
          omega
        rw [hsum, hback] at hlast
        rw [if_neg hthree, List.cons_append, List.cons_append, List.cons_append,
          List.singleton_append, symbolsFrom_open hlead, symbolsFrom_open hmore,
          symbolsFrom_open hmore', symbolsFrom_complete hlast]

/-- The bytes of a text are read as its characters. -/
theorem symbols_bytes
    (s : String) :
    symbols (bytes s) = symbolsOfText s := by
  rw [symbols, bytes, symbolsOfText]
  induction s.toList with
  | nil =>
      rfl
  | cons c cs ih =>
      rw [List.flatMap_cons, symbolsFrom_charBytes, ih, List.map_cons]

end Utf8
end AccountMigration
