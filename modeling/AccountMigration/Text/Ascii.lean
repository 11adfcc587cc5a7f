/-!
# ASCII letters and hexadecimal digits

Names of settings are compared without regard to the case of ASCII letters; characters
outside ASCII are left as they are.  Hexadecimal digits are read in either case and written
in lower case.
-/

namespace AccountMigration
namespace Text

/-- Lower the case of one ASCII letter. -/
def lowerAsciiChar
    (c : Char) : Char :=
  if 'A' ≤ c ∧ c ≤ 'Z' then Char.ofNat (c.toNat + 32) else c

/-- Lower the case of the ASCII letters of a text. -/
def lowerAscii
    (s : String) : String :=
  String.ofList (s.toList.map lowerAsciiChar)

/-- The value of a hexadecimal digit in either case. -/
def hexValue?
    (c : Char) : Option Nat :=
  if '0' ≤ c ∧ c ≤ '9' then some (c.toNat - 48)
  else if 'a' ≤ c ∧ c ≤ 'f' then some (c.toNat - 87)
  else if 'A' ≤ c ∧ c ≤ 'F' then some (c.toNat - 55)
  else none

/-- Whether a character is a hexadecimal digit. -/
def isHexDigit
    (c : Char) : Bool :=
  (hexValue? c).isSome

/-- The lower-case digit of a value below sixteen. -/
def hexDigit
    (value : Nat) : Char :=
  if value < 10 then Char.ofNat (48 + value) else Char.ofNat (87 + value)

/-- The upper-case digit of a value below sixteen. -/
def upperHexDigit
    (value : Nat) : Char :=
  if value < 10 then Char.ofNat (48 + value) else Char.ofNat (55 + value)

/-- A written digit reads back as its value. -/
theorem hexValue?_hexDigit
    {value : Nat}
    (h : value < 16) :
    hexValue? (hexDigit value) = some value := by
  have all : ∀ v ∈ List.range 16, hexValue? (hexDigit v) = some v := by
    decide
  exact all value (List.mem_range.mpr h)

theorem hexValue?_upperHexDigit
    {value : Nat}
    (h : value < 16) :
    hexValue? (upperHexDigit value) = some value := by
  have all : ∀ v ∈ List.range 16, hexValue? (upperHexDigit v) = some v := by
    decide
  exact all value (List.mem_range.mpr h)

end Text
end AccountMigration
