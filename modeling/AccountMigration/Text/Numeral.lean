import AccountMigration.Text.DecimalDigit

/-!
# Decimal numerals

Numbers are written with the fewest decimal digits and read from any run of ASCII digits.
Settings take numbers with an optional sign; a number outside its range is refused, never
cut down to it.
-/

namespace AccountMigration
namespace Numeral

open Text

/-- The digits of a number. -/
def digits
    (n : Nat) : List Char :=
  Nat.toDigits 10 n

/-- The value of a list of digits. -/
def value
    (cs : List Char) : Nat :=
  Nat.ofDigitChars 10 cs 0

/-- The digits of a number, with zeros in front up to a width. -/
def padded
    (width n : Nat) : List Char :=
  List.replicate (width - (digits n).length) '0' ++ digits n

/-- The text of an integer: a minus sign for negative numbers, no plus sign. -/
def signed
    (i : Int) : List Char :=
  if i < 0 then '-' :: digits i.natAbs else digits i.natAbs

/-- Read a number from one or more ASCII digits and nothing else. -/
def nat?
    (cs : List Char) : Option Nat :=
  if cs ≠ [] ∧ cs.all isAsciiDigit then some (value cs) else none

/-- Read a number that may carry a plus sign and may not exceed `limit`. -/
def natUpTo?
    (limit : Nat)
    (cs : List Char) : Option Nat :=
  let n? :=
    match cs with
    | '+' :: rest => nat? rest
    | rest => nat? rest
  n?.filter fun n => n ≤ limit

/-- Read an integer that may carry either sign. -/
def int?
    (cs : List Char) : Option Int :=
  match cs with
  | '+' :: rest => (nat? rest).map Int.ofNat
  | '-' :: rest => (nat? rest).map fun n => -Int.ofNat n
  | rest => (nat? rest).map Int.ofNat

/-- The greatest number of 64 bits. -/
def maxWord : Nat :=
  Nat.pow 2 64 - 1

/-- The integer, when it fits into 32 bits with a sign. -/
def toInt32?
    (i : Int) : Option Int32 :=
  if Int32.minValue.toInt ≤ i ∧ i ≤ Int32.maxValue.toInt then some (Int32.ofInt i) else none

/-- The integer, when it is not negative and fits into 64 bits. -/
def toWord?
    (i : Int) : Option UInt64 :=
  if 0 ≤ i ∧ i ≤ maxWord then some (UInt64.ofNat i.toNat) else none

@[simp] theorem value_digits
    (n : Nat) :
    value (digits n) = n := by
  exact Nat.ofDigitChars_ten_toDigits

theorem digits_ne_nil
    (n : Nat) :
    digits n ≠ [] := by
  exact Nat.toDigits_ne_nil

end Numeral
end AccountMigration
