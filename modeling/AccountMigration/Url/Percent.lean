import AccountMigration.Text.Ascii
import AccountMigration.Text.Utf8

/-!
# Percent-encoding

Characters that a part of a URL may not hold are written as the percent-encoded bytes of
their UTF-8 form.  Every part has its own set of such characters; characters outside ASCII
belong to all of them.

* `Percent.encode` writes text, given a set.
* `Percent.decode` reads text as bytes; a percent sign that starts no byte stands for itself.
-/

namespace AccountMigration
namespace Percent

open Text

/-- Control characters. -/
def isControl
    (c : Char) : Bool :=
  c.toNat < 0x20 || c.toNat = 0x7F

/-- The characters that a fragment may not hold. -/
def inFragmentSet
    (c : Char) : Bool :=
  isControl c || c = ' ' || c = '"' || c = '<' || c = '>' || c = '\x60'

/-- The characters that a query may not hold. -/
def inQuerySet
    (c : Char) : Bool :=
  isControl c || c = ' ' || c = '"' || c = '#' || c = '<' || c = '>'

/-- The characters that the query of a special URL may not hold. -/
def inSpecialQuerySet
    (c : Char) : Bool :=
  inQuerySet c || c = '\''

/-- The characters that a path may not hold. -/
def inPathSet
    (c : Char) : Bool :=
  inQuerySet c || c = '?' || c = '^' || c = '\x60' || c = '\x7b' || c = '\x7d'

/-- The characters that a user name or a password may not hold. -/
def inUserInfoSet
    (c : Char) : Bool :=
  inPathSet c || c = '/' || c = ':' || c = ';' || c = '=' || c = '@' || c = '[' || c = '\\'
    || c = ']' || c = '|'

/-- The characters that a single segment of a path may not hold. -/
def inSegmentSet
    (special : Bool)
    (c : Char) : Bool :=
  inPathSet c || c = '/' || c = '%' || (special && c = '\\')

/-- A byte as a percent sign and two digits. -/
def encodeByte
    (byte : UInt8) : List Char :=
  ['%', upperHexDigit (byte.toNat / 16), upperHexDigit (byte.toNat % 16)]

/-- One character, encoded if it belongs to the set. -/
def encodeChar
    (inSet : Char → Bool)
    (c : Char) : List Char :=
  if inSet c || 0x80 ≤ c.toNat then (Utf8.charBytes c).flatMap encodeByte else [c]

/-- Text with all characters of the set encoded. -/
def encode
    (inSet : Char → Bool)
    (cs : List Char) : List Char :=
  cs.flatMap (encodeChar inSet)

/-- The bytes of a text with percent-encoded bytes. -/
def decode : List Char → List UInt8
  | '%' :: a :: b :: rest =>
      match hexValue? a, hexValue? b with
      | some high, some low => UInt8.ofNat (high * 16 + low) :: decode rest
      | _, _ => Utf8.charBytes '%' ++ decode (a :: b :: rest)
  | c :: rest => Utf8.charBytes c ++ decode rest
  | [] => []

end Percent
end AccountMigration
