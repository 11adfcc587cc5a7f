import AccountMigration.Text.Blank
import AccountMigration.Text.Numeral
import AccountMigration.Time.Timestamp

/-!
# Reading timestamps

Timestamps follow RFC 3339 with some freedom: fields need not have all their digits, blanks
may stand around the separators, the year may carry a sign, the date and the time are
separated by a T in either case or by a blank, and UTC may be written out.

Every step takes the characters that are left and gives them back without those it used.
A date and time with an offset is then moved to UTC.
-/

namespace AccountMigration
namespace Timestamp

open Text

/-- Read one digit or more, as many as there are. -/
def readRun?
    (cs : List Char) : Option (Nat × List Char) :=
  let digits := cs.takeWhile isAsciiDigit
  if digits.isEmpty then none
  else some (Numeral.value digits, cs.drop digits.length)

/-- Read one digit or more, up to a number of digits. -/
def readUpTo?
    (most : Nat)
    (cs : List Char) : Option (Nat × List Char) :=
  let digits := (cs.take most).takeWhile isAsciiDigit
  if digits.isEmpty then none
  else some (Numeral.value digits, cs.drop digits.length)

/-- Read a year: any number of digits behind a sign, four at most without one. -/
def readYear?
    (cs : List Char) : Option (Int × List Char) :=
  match trimStart cs with
  | '-' :: rest => (readRun? rest).map fun (n, behind) => (-(n : Int), behind)
  | '+' :: rest => (readRun? rest).map fun (n, behind) => ((n : Int), behind)
  | rest => (readUpTo? 4 rest).map fun (n, behind) => ((n : Int), behind)

/-- Read a number of one or two digits that may have blanks in front. -/
def readTwoDigits?
    (cs : List Char) : Option (Nat × List Char) :=
  readUpTo? 2 (trimStart cs)

/-- Drop a separator that may have blanks in front. -/
def readSeparator?
    (c : Char)
    (cs : List Char) : Option (List Char) :=
  match trimStart cs with
  | d :: rest => if d = c then some rest else none
  | [] => none

/-- Read year, month and day. -/
def readDate?
    (cs : List Char) : Option (Date × List Char) := do
  let (year, cs) ← readYear? cs
  let cs ← readSeparator? '-' cs
  let (month, cs) ← readTwoDigits? cs
  let cs ← readSeparator? '-' cs
  let (day, cs) ← readTwoDigits? cs
  let date ← Date.of? year month day
  return (date, cs)

/-- Drop the character between date and time. -/
def readDateEnd? :
    List Char → Option (List Char)
  | 'T' :: rest => some rest
  | 't' :: rest => some rest
  | ' ' :: rest => some rest
  | _ => none

/-- Read a fraction of a second in nanoseconds; digits behind the ninth are dropped. -/
def readFraction? :
    List Char → Option (Nat × List Char)
  | '.' :: rest =>
      let digits := rest.takeWhile isAsciiDigit
      if digits.isEmpty then none
      else
        let kept := digits.take 9
        some (Numeral.value kept * Nat.pow 10 (9 - kept.length), rest.drop digits.length)
  | rest => some (0, rest)

/-- Second and nanosecond of a clock time; second 60 is a leap second. -/
def clockTime?
    (hour minute second nano : Nat) : Option (Nat × Nat) :=
  if hour < 24 ∧ minute < 60 ∧ second ≤ 60 then
    if second = 60 then some (hour * 3600 + minute * 60 + 59, nanosPerSecond + nano)
    else some (hour * 3600 + minute * 60 + second, nano)
  else none

/-- Read a time of day: the seconds since midnight and the nanoseconds. -/
def readTime?
    (cs : List Char) : Option ((Nat × Nat) × List Char) := do
  let (hour, cs) ← readTwoDigits? cs
  let cs ← readSeparator? ':' cs
  let (minute, cs) ← readTwoDigits? cs
  let cs ← readSeparator? ':' cs
  let (second, cs) ← readTwoDigits? cs
  let (nano, cs) ← readFraction? cs
  let clock ← clockTime? hour minute second nano
  return (clock, cs)

/-- Read exactly two digits. -/
def readPair? :
    List Char → Option (Nat × List Char)
  | a :: b :: rest =>
      if isAsciiDigit a && isAsciiDigit b then some (Numeral.value [a, b], rest) else none
  | _ => none

/-- Read hours and minutes of an offset in seconds, with colons or blanks between them. -/
def readOffsetAmount?
    (cs : List Char) : Option (Nat × List Char) := do
  let (hours, cs) ← readPair? cs
  let (minutes, cs) ← readPair? (cs.dropWhile fun c => c = ':' || isBlank c)
  if hours < 24 ∧ minutes < 60 then
    return (hours * 3600 + minutes * 60, cs)
  else none

/-- Whether a text begins with the name of universal time, in either case. -/
def isUtcName : List Char → Bool
  | u :: t :: c :: _ =>
      (u = 'U' || u = 'u') && (t = 'T' || t = 't') && (c = 'C' || c = 'c')
  | _ => false

/-- Read the seconds that local time is ahead of UTC. -/
def readOffset?
    (cs : List Char) : Option (Int × List Char) :=
  if isUtcName cs then some (0, cs.drop 3)
  else
    match cs with
    | 'Z' :: rest => some (0, rest)
    | 'z' :: rest => some (0, rest)
    | '+' :: rest => (readOffsetAmount? rest).map fun (n, behind) => ((n : Int), behind)
    | '-' :: rest => (readOffsetAmount? rest).map fun (n, behind) => (-(n : Int), behind)
    | '−' :: rest => (readOffsetAmount? rest).map fun (n, behind) => (-(n : Int), behind)
    | _ => none

/-- Move a local date and time to UTC. -/
def toUtc?
    (date : Date)
    (second nano : Nat)
    (offset : Int) : Option Timestamp :=
  let utc := (second : Int) - offset
  if utc < 0 then
    date.previous?.bind fun d => of? d (utc + secondsPerDay).toNat nano
  else if utc < secondsPerDay then
    of? date utc.toNat nano
  else
    date.next?.bind fun d => of? d (utc - secondsPerDay).toNat nano

/-- Read a timestamp from all of the given characters. -/
def ofChars?
    (cs : List Char) : Option Timestamp := do
  let (date, cs) ← readDate? cs
  let cs ← readDateEnd? cs
  let ((second, nano), cs) ← readTime? cs
  let (offset, cs) ← readOffset? (trimStart cs)
  if cs.all isBlank then toUtc? date second nano offset else none

/-- Read a timestamp. -/
def ofText?
    (s : String) : Option Timestamp :=
  ofChars? s.toList

end Timestamp
end AccountMigration
