/-!
# UTF-8

Bytes are read as a list of symbols: a character for every well-formed sequence, and `none`
for every maximal ill-formed part.  A byte that cannot continue a sequence starts a new one.

* `Utf8.symbols` is the reading itself;
* `Utf8.text?` is the text of bytes that are well formed throughout;
* `Utf8.lossy` puts the replacement character where bytes are ill formed;
* `Utf8.bytes` writes text.
-/

namespace AccountMigration

/-- A character, or an ill-formed part of the input. -/
abbrev Symbol :=
  Option Char

namespace Utf8

/-- A sequence that has been started and still owes continuation bytes. -/
structure Pending where
  /-- Continuation bytes still owed. -/
  owed : Nat
  /-- Least value that the next byte may have. -/
  low : Nat
  /-- Greatest value that the next byte may have. -/
  high : Nat
  /-- Bits collected so far. -/
  bits : Nat

/-- What a byte yields: finished symbols, and the sequence that it leaves open. -/
structure Yield where
  symbols : List Symbol
  pending : Option Pending

/-- A byte that starts a sequence. -/
def start
    (byte : UInt8) : Yield :=
  let b := byte.toNat
  if b < 0x80 then ⟨[some (Char.ofNat b)], none⟩
  else if b < 0xC2 then ⟨[none], none⟩
  else if b < 0xE0 then ⟨[], some ⟨1, 0x80, 0xBF, b - 0xC0⟩⟩
  else if b = 0xE0 then ⟨[], some ⟨2, 0xA0, 0xBF, b - 0xE0⟩⟩
  else if b = 0xED then ⟨[], some ⟨2, 0x80, 0x9F, b - 0xE0⟩⟩
  else if b < 0xF0 then ⟨[], some ⟨2, 0x80, 0xBF, b - 0xE0⟩⟩
  else if b = 0xF0 then ⟨[], some ⟨3, 0x90, 0xBF, b - 0xF0⟩⟩
  else if b < 0xF4 then ⟨[], some ⟨3, 0x80, 0xBF, b - 0xF0⟩⟩
  else if b = 0xF4 then ⟨[], some ⟨3, 0x80, 0x8F, b - 0xF0⟩⟩
  else ⟨[none], none⟩

/-- A byte after an open sequence. -/
def extend
    (p : Pending)
    (byte : UInt8) : Yield :=
  let b := byte.toNat
  if p.low ≤ b ∧ b ≤ p.high then
    let bits := p.bits * 64 + (b - 0x80)
    if p.owed ≤ 1 then ⟨[some (Char.ofNat bits)], none⟩
    else ⟨[], some ⟨p.owed - 1, 0x80, 0xBF, bits⟩⟩
  else
    let next := start byte
    ⟨none :: next.symbols, next.pending⟩

/-- One byte, with or without an open sequence in front of it. -/
def feed : Option Pending → UInt8 → Yield
  | none, byte => start byte
  | some p, byte => extend p byte

/-- The symbols of the bytes that follow an open sequence. -/
def symbolsFrom :
    Option Pending → List UInt8 → List Symbol
  | none, [] => []
  | some _, [] => [none]
  | pending, byte :: rest =>
      let y := feed pending byte
      y.symbols ++ symbolsFrom y.pending rest

/-- The symbols of a list of bytes. -/
def symbols
    (bytes : List UInt8) : List Symbol :=
  symbolsFrom none bytes

/-- The text of well-formed bytes. -/
def text?
    (bytes : List UInt8) : Option String :=
  ((symbols bytes).mapM id).map String.ofList

/-- The text of any bytes, with replacement characters for ill-formed parts. -/
def lossy
    (bytes : List UInt8) : String :=
  String.ofList ((symbols bytes).map fun s => s.getD '\uFFFD')

/-- The bytes of one character. -/
def charBytes
    (c : Char) : List UInt8 :=
  String.utf8EncodeChar c

/-- The bytes of a text. -/
def bytes
    (s : String) : List UInt8 :=
  s.toList.flatMap charBytes

/-- The symbols of a text: its characters, all well formed. -/
def symbolsOfText
    (s : String) : List Symbol :=
  s.toList.map some

end Utf8

end AccountMigration
