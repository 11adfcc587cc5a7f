import AccountMigration.Json.Token

/-!
# JSON texts of a value

Two layouts of one token sequence: `compact` has no white space, and `pretty` has every
item and every member on a line of its own, indented by two blanks for each level, with a
blank behind the colon and nothing inside an empty array or object.
-/

namespace AccountMigration
namespace Json

/-- The text of a value without white space. -/
def compact
    (v : Json) : List Char :=
  (tokens v).flatMap Token.write

/-- A line break and the indentation of a level. -/
def newLine
    (level : Nat) : List Char :=
  '\n' :: List.replicate (2 * level) ' '

mutual

/-- The indented text of a value that stands at a level. -/
def pretty
    (level : Nat) :
    Json → List Char
  | .str s => quote s
  | .arr [] => ['[', ']']
  | .arr (v :: rest) =>
      '[' :: newLine (level + 1) ++ pretty (level + 1) v ++ prettyItems level rest
  | .obj [] => ['\x7b', '\x7d']
  | .obj ((k, v) :: rest) =>
      '\x7b' :: newLine (level + 1) ++ quote k ++ ':' :: ' ' :: pretty (level + 1) v
        ++ prettyMembers level rest
  | v => writeScalar v

/-- The lines behind an item of an array that stands at a level. -/
def prettyItems
    (level : Nat) :
    List Json → List Char
  | [] => newLine level ++ [']']
  | v :: rest =>
      ',' :: newLine (level + 1) ++ pretty (level + 1) v ++ prettyItems level rest

/-- The lines behind a member of an object that stands at a level. -/
def prettyMembers
    (level : Nat) :
    List (Option String × Json) → List Char
  | [] => newLine level ++ ['\x7d']
  | (k, v) :: rest =>
      ',' :: newLine (level + 1) ++ quote k ++ ':' :: ' ' :: pretty (level + 1) v
        ++ prettyMembers level rest

end

/-- The text of a value without white space. -/
def toText
    (v : Json) : String :=
  String.ofList (compact v)

/-- The indented text of a value. -/
def toPrettyText
    (v : Json) : String :=
  String.ofList (pretty 0 v)

end Json
end AccountMigration
