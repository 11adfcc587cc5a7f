import AccountMigration.Proofs.Text.Numeral
import AccountMigration.Time.Printer
import AccountMigration.Time.Reader

/-!
# Timestamps read back

The reader of timestamps takes the text of a timestamp piece by piece: every piece is read up to the
separator behind it, and what stands behind is left for the next piece.

* `readYear?_yearText` and `readFraction?_fractionText`: the pieces with a form of their own, a
  signed year and a fraction without superfluous zeros.
* `readDate?_text` and `readTime?_text`: the two halves of a text.
* `Timestamp.ofText?_toText`: every timestamp reads back, a leap second too.
-/

namespace AccountMigration
namespace Timestamp

open Text

/-! ## Numbers -/

section Number

variable {width n : Nat} (rest : List Char)

theorem padded_append_eq_cons
    (width n : Nat) :
    ∃ d ds, Numeral.padded width n ++ rest = d :: ds ∧ isAsciiDigit d = true := by
  obtain ⟨d, ds, hdigits⟩ := List.exists_cons_of_ne_nil (Numeral.padded_ne_nil width n)
  refine ⟨d, ds ++ rest, by rw [hdigits, List.cons_append], ?_⟩
  exact Numeral.isAsciiDigit_of_mem_padded width n (hdigits ▸ List.mem_cons_self)

theorem takeWhile_padded
    {rest : List Char}
    (hrest : ∀ c ∈ rest.head?, isAsciiDigit c = false) :
    (Numeral.padded width n ++ rest).takeWhile isAsciiDigit = Numeral.padded width n :=
  takeWhile_append_of_head? (fun _ => Numeral.isAsciiDigit_of_mem_padded width n) hrest

/-- A run of digits is read up to the first character that is none. -/
theorem readRun?_padded
    {rest : List Char}
    (hrest : ∀ c ∈ rest.head?, isAsciiDigit c = false) :
    readRun? (Numeral.padded width n ++ rest) = some (n, rest) := by
  have hne := Numeral.padded_ne_nil width n
  simp only [readRun?, takeWhile_padded hrest, List.isEmpty_iff, if_neg hne, List.drop_left,
    Numeral.value_padded]

/-- A number that fills the width is read, whatever stands behind it. -/
theorem readUpTo?_padded
    (hwidth : 0 < width)
    (hn : n < 10 ^ width) :
    readUpTo? width (Numeral.padded width n ++ rest) = some (n, rest) := by
  have htake : (Numeral.padded width n ++ rest).take width = Numeral.padded width n :=
    List.take_left' (Numeral.length_padded width n hwidth hn)
  have hdigits : (Numeral.padded width n).takeWhile isAsciiDigit = Numeral.padded width n :=
    List.takeWhile_eq_self_iff.mpr fun _ => Numeral.isAsciiDigit_of_mem_padded width n
  have hne := Numeral.padded_ne_nil width n
  simp only [readUpTo?, htake, hdigits, List.isEmpty_iff, if_neg hne, List.drop_left,
    Numeral.value_padded]

theorem readTwoDigits?_padded
    (hn : n < 100) :
    readTwoDigits? (Numeral.padded 2 n ++ rest) = some (n, rest) := by
  obtain ⟨d, ds, hdigits, hd⟩ := padded_append_eq_cons rest 2 n
  have htrim : trimStart (d :: ds) = d :: ds := by
    rw [trimStart_cons, isBlank_of_isAsciiDigit hd]
    rfl
  rw [readTwoDigits?, hdigits, htrim, ← hdigits, readUpTo?_padded rest (by decide) hn]

theorem readSeparator?_cons
    {c : Char}
    (hc : isBlank c = false) :
    readSeparator? c (c :: rest) = some rest := by
  rw [readSeparator?, trimStart_cons, hc]
  simp

end Number

/-! ## Dates -/

theorem readYear?_of_isAsciiDigit
    {d : Char}
    (hd : isAsciiDigit d = true)
    (ds : List Char) :
    readYear? (d :: ds) = (readUpTo? 4 (d :: ds)).map fun (n, behind) => ((n : Int), behind) := by
  rw [readYear?, trimStart_cons, isBlank_of_isAsciiDigit hd, if_neg Bool.false_ne_true]
  split
  -- a sign is no digit
  · rename_i hcons
    cases hcons
    exact absurd hd (by decide)
  · rename_i hcons
    cases hcons
    exact absurd hd (by decide)
  · rfl

/-- A year reads back, with a sign outside of 0 to 9999. -/
theorem readYear?_yearText
    (year : Int)
    (rest : List Char) :
    readYear? (yearText year ++ '-' :: rest) = some (year, '-' :: rest) := by
  have hstop : ∀ c ∈ ('-' :: rest).head?, isAsciiDigit c = false := by
    simp only [List.head?_cons, Option.mem_some_iff]
    rintro c rfl
    decide
  unfold yearText
  split
  · rename_i hplain
    obtain ⟨d, ds, hdigits, hd⟩ := padded_append_eq_cons ('-' :: rest) 4 year.toNat
    rw [hdigits, readYear?_of_isAsciiDigit hd, ← hdigits,
      readUpTo?_padded _ (by decide) (by omega)]
    simp only [Option.map_some, Int.toNat_of_nonneg hplain.1]
  · split
    · rename_i hneg
      rw [List.cons_append, readYear?, trimStart_cons, if_neg (by decide)]
      simp only [readRun?_padded hstop, Option.map_some]
      congr 2
      omega
    · rename_i hpos
      rw [List.cons_append, readYear?, trimStart_cons, if_neg (by decide)]
      simp only [readRun?_padded hstop, Option.map_some]
      congr 2
      omega

/-- A date reads back. -/
theorem readDate?_text
    (date : Date)
    (rest : List Char) :
    readDate? (yearText date.year ++ '-' :: (Numeral.padded 2 date.month
      ++ '-' :: (Numeral.padded 2 date.day ++ rest))) = some (date, rest) := by
  have hmonth : date.month < 100 := Nat.lt_of_le_of_lt date.month_bounds.2 (by decide)
  have hday : date.day < 100 := Nat.lt_of_le_of_lt date.day_le (by decide)
  have hdash : isBlank '-' = false := by decide
  simp [readDate?, readYear?_yearText, readSeparator?_cons _ hdash,
    readTwoDigits?_padded _ hmonth, readTwoDigits?_padded _ hday]

/-! ## Times of day -/

theorem readFraction?_padded
    {width n : Nat}
    {rest : List Char}
    (hwidth : 0 < width ∧ width ≤ 9)
    (hn : n < 10 ^ width)
    (hrest : ∀ c ∈ rest.head?, isAsciiDigit c = false) :
    readFraction? ('.' :: Numeral.padded width n ++ rest) = some (n * 10 ^ (9 - width), rest) := by
  have hlength := Numeral.length_padded width n hwidth.1 hn
  have hkept : (Numeral.padded width n).take 9 = Numeral.padded width n :=
    List.take_of_length_le (by omega)
  have hbehind : (Numeral.padded width n ++ rest).drop width = rest :=
    List.drop_left' hlength
  have hne := Numeral.padded_ne_nil width n
  rw [List.cons_append, readFraction?]
  simp only [takeWhile_padded hrest, List.isEmpty_iff, if_neg hne, hkept, hlength, hbehind,
    Numeral.value_padded, Nat.pow_eq]

/-- A fraction reads back, with as few digits as are exact. -/
theorem readFraction?_fractionText
    {nano : Nat}
    (hnano : nano < nanosPerSecond)
    (rest : List Char) :
    readFraction? (fractionText nano ++ 'Z' :: rest) = some (nano, 'Z' :: rest) := by
  have hstop : ∀ c ∈ ('Z' :: rest).head?, isAsciiDigit c = false := by
    simp only [List.head?_cons, Option.mem_some_iff]
    rintro c rfl
    decide
  unfold nanosPerSecond at hnano
  unfold fractionText
  split
  · rename_i hzero
    rw [hzero]
    rfl
  · split
    · rw [readFraction?_padded (by decide) (by omega) hstop]
      congr 2
      omega
    · split
      · rw [readFraction?_padded (by decide) (by omega) hstop]
        congr 2
        omega
      · rw [readFraction?_padded (by decide) (by omega) hstop]
        congr 2
        omega

/-- The parts of a clock time give the time again; a leap second is written as second 60. -/
theorem clockTime?_parts
    (t : Timestamp) :
    clockTime? (t.second / 3600) (t.second / 60 % 60)
      (t.second % 60 + t.nano / nanosPerSecond) (t.nano % nanosPerSecond) =
        some (t.second, t.nano) := by
  have hsecond := t.second_lt
  have hnano := t.nano_lt
  have hleap := t.leap_second
  unfold secondsPerDay at hsecond
  unfold nanosPerSecond at hnano hleap ⊢
  unfold clockTime?
  rw [if_pos (by omega)]
  split
  · congr 2
    · omega
    · unfold nanosPerSecond
      omega
  · congr 2
    · omega
    · omega

/-- A time of day reads back. -/
theorem readTime?_text
    (t : Timestamp)
    (rest : List Char) :
    readTime? (Numeral.padded 2 (t.second / 3600) ++ ':' :: (Numeral.padded 2 (t.second / 60 % 60)
      ++ ':' :: (Numeral.padded 2 (t.second % 60 + t.nano / nanosPerSecond)
        ++ (fractionText (t.nano % nanosPerSecond) ++ 'Z' :: rest)))) =
      some ((t.second, t.nano), 'Z' :: rest) := by
  have hsecond := t.second_lt
  have hnano := t.nano_lt
  unfold secondsPerDay at hsecond
  have hhour : t.second / 3600 < 100 := by omega
  have hminute : t.second / 60 % 60 < 100 := by omega
  have hlast : t.second % 60 + t.nano / nanosPerSecond < 100 := by
    unfold nanosPerSecond at hnano ⊢
    omega
  have hfraction : t.nano % nanosPerSecond < nanosPerSecond := Nat.mod_lt _ (by decide)
  have hcolon : isBlank ':' = false := by decide
  simp [readTime?, readTwoDigits?_padded _ hhour, readTwoDigits?_padded _ hminute,
    readTwoDigits?_padded _ hlast, readSeparator?_cons _ hcolon,
    readFraction?_fractionText hfraction, clockTime?_parts]

/-! ## Timestamps -/

/-- Universal time is where it is. -/
theorem toUtc?_zero
    (t : Timestamp) :
    toUtc? t.date t.second t.nano 0 = some t := by
  have hsecond := t.second_lt
  unfold toUtc?
  rw [if_neg (by omega), if_pos (by omega)]
  simp

/-- The text of a timestamp, piece by piece. -/
theorem toChars_eq
    (t : Timestamp) :
    t.toChars = yearText t.date.year ++ '-' :: (Numeral.padded 2 t.date.month
      ++ '-' :: (Numeral.padded 2 t.date.day ++ 'T' :: (Numeral.padded 2 (t.second / 3600)
        ++ ':' :: (Numeral.padded 2 (t.second / 60 % 60)
          ++ ':' :: (Numeral.padded 2 (t.second % 60 + t.nano / nanosPerSecond)
            ++ (fractionText (t.nano % nanosPerSecond) ++ ['Z'])))))) := by
  simp only [toChars, List.append_assoc, List.cons_append]

/-- A date and a time of universal time, one behind the other. -/
theorem ofChars?_eq_some
    {cs ds : List Char}
    {date : Date}
    {second nano : Nat}
    {t : Timestamp}
    (hdate : readDate? cs = some (date, 'T' :: ds))
    (htime : readTime? ds = some ((second, nano), ['Z']))
    (hutc : toUtc? date second nano 0 = some t) :
    ofChars? cs = some t := by
  have hend : readDateEnd? ('T' :: ds) = some ds := by rfl
  have hoffset : readOffset? (trimStart ['Z']) = some (0, []) := by decide
  refine Option.bind_eq_some_iff.mpr ⟨_, hdate, ?_⟩
  refine Option.bind_eq_some_iff.mpr ⟨_, hend, ?_⟩
  refine Option.bind_eq_some_iff.mpr ⟨_, htime, ?_⟩
  refine Option.bind_eq_some_iff.mpr ⟨_, hoffset, ?_⟩
  exact (if_pos rfl).trans hutc

/-- Every timestamp reads back from its text. -/
theorem ofText?_toText
    (t : Timestamp) :
    ofText? t.toText = some t := by
  rw [ofText?, toText, String.toList_ofList, toChars_eq]
  exact ofChars?_eq_some (readDate?_text t.date _) (readTime?_text t []) (toUtc?_zero t)

/-- A leap second of a negative year is written in one way only. -/
example :
    (ofText? "-0044-03-15 23:59:60.25+00:00").map toText = some "-0044-03-15T23:59:60.250Z" := by
  decide

end Timestamp
end AccountMigration
