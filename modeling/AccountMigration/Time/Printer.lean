import AccountMigration.Text.Numeral
import AccountMigration.Time.Timestamp

/-!
# Writing timestamps

A timestamp is written in UTC as RFC 3339 has it, with a Z at the end.  The fraction has
none, three, six or nine digits, as few as are exact.  A year has four digits; outside of
0 to 9999 it carries a sign.  A leap second is written as second 60.
-/

namespace AccountMigration
namespace Timestamp

/-- The text of a year. -/
def yearText
    (year : Int) : List Char :=
  if 0 ≤ year ∧ year ≤ 9999 then
    Numeral.padded 4 year.toNat
  else if year < 0 then
    '-' :: Numeral.padded 4 year.natAbs
  else
    '+' :: Numeral.padded 4 year.natAbs

/-- The text of a fraction of a second, given in nanoseconds. -/
def fractionText
    (nano : Nat) : List Char :=
  if nano = 0 then []
  else if nano % 1000000 = 0 then '.' :: Numeral.padded 3 (nano / 1000000)
  else if nano % 1000 = 0 then '.' :: Numeral.padded 6 (nano / 1000)
  else '.' :: Numeral.padded 9 nano

/-- The text of a timestamp. -/
def toChars
    (t : Timestamp) : List Char :=
  let leap := t.nano / nanosPerSecond
  yearText t.date.year
    ++ '-' :: Numeral.padded 2 t.date.month
    ++ '-' :: Numeral.padded 2 t.date.day
    ++ 'T' :: Numeral.padded 2 (t.second / 3600)
    ++ ':' :: Numeral.padded 2 (t.second / 60 % 60)
    ++ ':' :: Numeral.padded 2 (t.second % 60 + leap)
    ++ fractionText (t.nano % nanosPerSecond)
    ++ ['Z']

/-- The text of a timestamp. -/
def toText
    (t : Timestamp) : String :=
  String.ofList t.toChars

end Timestamp
end AccountMigration
