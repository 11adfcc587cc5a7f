import AccountMigration.Text.Ascii

/-!
# UUIDs

A UUID is a list of 32 hexadecimal digits.  Four spellings are read: the digits alone, the
digits in groups of 8, 4, 4, 4 and 12 with hyphens between them, the groups in braces, and
the groups behind a URN scheme.  It is written in groups, with lower-case digits.

* `Uuid.ofText?` reads any spelling, `Uuid.toText` writes the canonical one.
-/

namespace AccountMigration

open Text

/-- A universally unique identifier: the values of its 32 hexadecimal digits. -/
structure Uuid where
  digits : List Nat
  length_digits : digits.length = 32
  digit_lt : ∀ d ∈ digits, d < 16
  deriving DecidableEq

namespace Uuid

/-- The UUID of exactly 32 digits. -/
def ofDigits?
    (cs : List Char) : Option Uuid :=
  match cs.mapM hexValue? with
  | none => none
  | some digits =>
      if h : digits.length = 32 ∧ ∀ d ∈ digits, d < 16 then
        some ⟨digits, h.1, h.2⟩
      else none

/-- The digits of five groups with hyphens between them. -/
def ungroup?
    (cs : List Char) : Option (List Char) :=
  if cs.length = 36 ∧ cs[8]? = some '-' ∧ cs[13]? = some '-' ∧ cs[18]? = some '-'
      ∧ cs[23]? = some '-' then
    some (cs.take 8 ++ (cs.drop 9).take 4 ++ (cs.drop 14).take 4 ++ (cs.drop 19).take 4
      ++ cs.drop 24)
  else none

/-- The characters between two braces. -/
def unbrace? : List Char → Option (List Char)
  | '\x7b' :: rest => if rest.getLast? = some '\x7d' then some rest.dropLast else none
  | _ => none

/-- The characters behind the URN scheme, which may be spelled in either case. -/
def afterScheme?
    (cs : List Char) : Option (List Char) :=
  let scheme := "urn:uuid:".toList
  if (cs.take scheme.length).map lowerAsciiChar = scheme then some (cs.drop scheme.length)
  else none

/-- Read a UUID in any of its four spellings. -/
def ofChars?
    (cs : List Char) : Option Uuid :=
  if cs.length = 32 then ofDigits? cs
  else if cs.length = 36 then (ungroup? cs).bind ofDigits?
  else if cs.length = 38 then ((unbrace? cs).bind ungroup?).bind ofDigits?
  else if cs.length = 45 then ((afterScheme? cs).bind ungroup?).bind ofDigits?
  else none

/-- Read a UUID. -/
def ofText?
    (s : String) : Option Uuid :=
  ofChars? s.toList

/-- The canonical spelling. -/
def toChars
    (u : Uuid) : List Char :=
  let cs := u.digits.map hexDigit
  cs.take 8 ++ '-' :: (cs.drop 8).take 4 ++ '-' :: (cs.drop 12).take 4
    ++ '-' :: (cs.drop 16).take 4 ++ '-' :: cs.drop 20

/-- The canonical spelling. -/
def toText
    (u : Uuid) : String :=
  String.ofList u.toChars

end Uuid
end AccountMigration
