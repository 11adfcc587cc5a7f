import AccountMigration.Json.Basic
import AccountMigration.Text.Numeral

/-!
# Records in JSON

A record with named fields is written as an object, or as an array that lists the fields in
the order of their declaration.

* In an object the members may come in any order, and members with other names are ignored.
  A name that is not Unicode text is an error, and so is a declared name that occurs twice.
* An array may not have more items than there are fields.  Where it ends early, only the
  fields with a default may be missing.

`fields?` finds what is given for each declared name, and `Field.required`,
`Field.optional` and `Field.orElse` read one field.
-/

namespace AccountMigration
namespace Json

/-- What a text gives for a declared field. -/
inductive Field where
  | given (value : Json)
  /-- No member of an object has the name. -/
  | missing
  /-- An array ends before the field. -/
  | cut

/-- The field of a name in the members of an object. -/
def memberField
    (members : List (Option String × Json))
    (name : String) : Field :=
  match members.lookup (some name) with
  | some v => .given v
  | none => .missing

/-- The field of a name in an array that follows the order of the declared names. -/
def itemField
    (names : List String)
    (items : List Json)
    (name : String) : Field :=
  match items[names.idxOf name]? with
  | some v => .given v
  | none => .cut

/-- Whether every name is text and no declared name occurs twice. -/
def areMembers
    (names : List String)
    (members : List (Option String × Json)) : Bool :=
  let keys := members.map (·.1)
  keys.all Option.isSome && names.all fun name => keys.count (some name) ≤ 1

/-- The fields of a record by their declared names. -/
def fields?
    (names : List String) :
    Json → Option (String → Field)
  | .obj members =>
      if areMembers names members then some (memberField members) else none
  | .arr items =>
      if items.length ≤ names.length then some (itemField names items) else none
  | _ => none

namespace Field

/-- A field that must be given. -/
def required
    {α : Type}
    (read : Json → Option α) :
    Field → Option α
  | .given v => read v
  | _ => none

/-- A field with a default. -/
def orElse
    {α : Type}
    (default : α)
    (read : Json → Option α) :
    Field → Option α
  | .given v => read v
  | _ => some default

end Field

/-- A value that may be `null`. -/
def nullable
    {α : Type}
    (read : Json → Option α) :
    Json → Option (Option α)
  | .null => some none
  | v => (read v).map some

/-- A field that an object may lack and that may be `null`. -/
def Field.optional
    {α : Type}
    (read : Json → Option α) :
    Field → Option (Option α)
  | .given v => nullable read v
  | .missing => some none
  | .cut => none

/-- The text of a string. -/
def text? : Json → Option String
  | .str s => s
  | _ => none

/-- A truth value. -/
def bool? : Json → Option Bool
  | .bool b => some b
  | _ => none

/-- A number of 64 bits that is not negative. -/
def word? : Json → Option UInt64
  | .int i => Numeral.toWord? i
  | _ => none

/-- A number of 32 bits with a sign. -/
def int32? : Json → Option Int32
  | .int i => Numeral.toInt32? i
  | _ => none

/-- A list of values. -/
def list?
    {α : Type}
    (read : Json → Option α) :
    Json → Option (List α)
  | .arr items => items.mapM read
  | _ => none

/-- One of a set of named values: its name, or an object with the name and `null`. -/
def choice?
    {α : Type}
    (ofName? : String → Option α) :
    Json → Option α
  | .str (some name) => ofName? name
  | .obj [(some name, .null)] => ofName? name
  | _ => none

end Json
end AccountMigration
