import AccountMigration.Json.Basic
import AccountMigration.Text.Ascii
import AccountMigration.Text.Numeral

/-!
# JSON tokens

The tokens of a JSON text, and the one way in which each of them is written.  Strings are
written with the shortest escapes: a quote, a backslash and the control characters are
escaped, every other character stands for itself.

* `Token.write` is the text of a token.
* `Json.tokens` is the token sequence of a value, the same for every layout.
-/

namespace AccountMigration
namespace Json

open Text

/-- A token of a JSON text. -/
inductive Token where
  | beginArray
  | endArray
  | beginObject
  | endObject
  | comma
  | colon
  /-- A literal or a number. -/
  | scalar (value : Json)
  /-- A string, absent when it is not Unicode text. -/
  | text (value : Option String)

/-- The escape of a character inside a string. -/
def escapeChar
    (c : Char) : List Char :=
  if c = '"' then ['\\', '"']
  else if c = '\\' then ['\\', '\\']
  else if c = '\x08' then ['\\', 'b']
  else if c = '\x0c' then ['\\', 'f']
  else if c = '\n' then ['\\', 'n']
  else if c = '\r' then ['\\', 'r']
  else if c = '\t' then ['\\', 't']
  else if c.toNat < 0x20 then
    ['\\', 'u', '0', '0', hexDigit (c.toNat / 16), hexDigit (c.toNat % 16)]
  else [c]

/-- A string between its quotes; one that is no Unicode text is written as a lone surrogate. -/
def quote : Option String → List Char
  | some s => '"' :: s.toList.flatMap escapeChar ++ ['"']
  | none => "\"\\ud800\"".toList

/-- The text of a literal or a number. -/
def writeScalar : Json → List Char
  | .bool true => "true".toList
  | .bool false => "false".toList
  | .int i => Numeral.signed i
  | .real lexeme => lexeme.toList
  | _ => "null".toList

/-- The text of a token. -/
def Token.write : Token → List Char
  | .beginArray => ['[']
  | .endArray => [']']
  | .beginObject => ['\x7b']
  | .endObject => ['\x7d']
  | .comma => [',']
  | .colon => [':']
  | .scalar v => writeScalar v
  | .text s => quote s

mutual

/-- The tokens of a value. -/
def tokens : Json → List Token
  | .str s => [.text s]
  | .arr [] => [.beginArray, .endArray]
  | .arr (v :: rest) => .beginArray :: tokens v ++ moreItems rest
  | .obj [] => [.beginObject, .endObject]
  | .obj ((k, v) :: rest) =>
      .beginObject :: .text k :: .colon :: tokens v ++ moreMembers rest
  | v => [.scalar v]

/-- The tokens behind an item of an array: a comma and an item each, then the end. -/
def moreItems : List Json → List Token
  | [] => [.endArray]
  | v :: rest => .comma :: tokens v ++ moreItems rest

/-- The tokens behind a member of an object: a comma and a member each, then the end. -/
def moreMembers : List (Option String × Json) → List Token
  | [] => [.endObject]
  | (k, v) :: rest => .comma :: .text k :: .colon :: tokens v ++ moreMembers rest

end

end Json
end AccountMigration
