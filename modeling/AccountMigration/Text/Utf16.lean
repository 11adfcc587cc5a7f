import AccountMigration.Text.Utf8

/-!
# UTF-16

Text in units of two bytes, whose order is not fixed.  A unit is a character, or one half of a
pair of surrogates, which together are a character.  Bytes are read as a list of symbols, with
`none` for a half without its counterpart and for what is left over at the end.
-/

namespace AccountMigration
namespace Utf16

/-- The first half of a surrogate pair. -/
def isHighSurrogate
    (code : Nat) : Bool :=
  0xD800 ≤ code && code < 0xDC00

/-- The second half of a surrogate pair. -/
def isLowSurrogate
    (code : Nat) : Bool :=
  0xDC00 ≤ code && code < 0xE000

/-- The character of a surrogate pair. -/
def pairChar
    (high low : Nat) : Char :=
  Char.ofNat (0x10000 + (high - 0xD800) * 0x400 + (low - 0xDC00))

/-- The unit of two bytes, the more significant one in front. -/
def bigEndian
    (a b : UInt8) : Nat :=
  a.toNat * 256 + b.toNat

/-- The unit of two bytes, the less significant one in front. -/
def littleEndian
    (a b : UInt8) : Nat :=
  b.toNat * 256 + a.toNat

/-- What a unit yields, and the first half of a pair that it leaves open. -/
def start
    (unit : Nat) : List Symbol × Option Nat :=
  if isHighSurrogate unit then ([], some unit)
  else if isLowSurrogate unit then ([none], none)
  else ([some (Char.ofNat unit)], none)

/-- One unit, with or without the first half of a pair in front of it. -/
def feed : Option Nat → Nat → List Symbol × Option Nat
  | none, unit => start unit
  | some high, unit =>
      if isLowSurrogate unit then ([some (pairChar high unit)], none)
      else (none :: (start unit).1, (start unit).2)

/-- The symbols of the bytes that follow the first half of a pair, if there is one. -/
def symbolsFrom
    (unitOf : UInt8 → UInt8 → Nat) :
    Option Nat → List UInt8 → List Symbol
  | pending, a :: b :: rest =>
      let (symbols, next) := feed pending (unitOf a b)
      symbols ++ symbolsFrom unitOf next rest
  | none, [] => []
  | _, _ => [none]

/-- The text of any bytes, with replacement characters for ill-formed parts. -/
def lossy
    (unitOf : UInt8 → UInt8 → Nat)
    (bytes : List UInt8) : String :=
  String.ofList ((symbolsFrom unitOf none bytes).map fun s => s.getD '\uFFFD')

end Utf16

end AccountMigration
