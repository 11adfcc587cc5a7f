import AccountMigration.Json.Lexer

/-!
# From tokens to a value

The grammar of JSON as a machine that takes one token at a time.  Its state is what may
come next, together with the arrays and objects that are still open, the innermost first.
The nesting of a text is not bounded.

* `State.put` gives a finished value to the innermost open array or object.
* `State.step` takes one token.
* `read?` is the value of a token sequence, `ofSymbols?` that of a whole text.
-/

namespace AccountMigration
namespace Json

/-- An array or an object that is still open, with its finished parts in reverse. -/
inductive Frame where
  | items (done : List Json)
  | members (done : List (Option String × Json)) (key : Option String)

/-- What may come next. -/
inductive State where
  /-- A value. -/
  | value (frames : List Frame)
  /-- The first item of an array, or its end. -/
  | firstItem (frames : List Frame)
  /-- A comma and an item, or the end of the array. -/
  | moreItems (done : List Json) (frames : List Frame)
  /-- The first member of an object, or its end. -/
  | firstMember (frames : List Frame)
  /-- The name of a member. -/
  | name (done : List (Option String × Json)) (frames : List Frame)
  /-- The colon behind the name of a member. -/
  | colon (done : List (Option String × Json)) (key : Option String) (frames : List Frame)
  /-- A comma and a member, or the end of the object. -/
  | moreMembers (done : List (Option String × Json)) (frames : List Frame)
  /-- Nothing: the value is complete. -/
  | complete (value : Json)

namespace State

/-- Give a finished value to the innermost open array or object. -/
def put
    (v : Json) :
    List Frame → State
  | [] => .complete v
  | .items done :: outer => .moreItems (v :: done) outer
  | .members done key :: outer => .moreMembers ((key, v) :: done) outer

/-- Take a token where a value must begin. -/
def begin?
    (frames : List Frame) :
    Token → Option State
  | .scalar v => some (put v frames)
  | .text s => some (put (.str s) frames)
  | .beginArray => some (.firstItem frames)
  | .beginObject => some (.firstMember frames)
  | _ => none

/-- Take one token. -/
def step :
    State → Token → Option State
  | .value frames, t => begin? frames t
  | .firstItem frames, .endArray => some (put (.arr []) frames)
  | .firstItem frames, t => begin? (.items [] :: frames) t
  | .moreItems done frames, .comma => some (.value (.items done :: frames))
  | .moreItems done frames, .endArray => some (put (.arr done.reverse) frames)
  | .firstMember frames, .endObject => some (put (.obj []) frames)
  | .firstMember frames, .text key => some (.colon [] key frames)
  | .name done frames, .text key => some (.colon done key frames)
  | .colon done key frames, .colon => some (.value (.members done key :: frames))
  | .moreMembers done frames, .comma => some (.name done frames)
  | .moreMembers done frames, .endObject => some (put (.obj done.reverse) frames)
  | _, _ => none

/-- Take tokens until one does not fit. -/
def run? :
    State → List Token → Option State
  | state, [] => some state
  | state, t :: rest =>
      match step state t with
      | none => none
      | some next => run? next rest

end State

/-- The value of a token sequence. -/
def read?
    (ts : List Token) : Option Json :=
  match State.run? (.value []) ts with
  | some (.complete v) => some v
  | _ => none

/-- The value of a JSON text given as symbols. -/
def ofSymbols?
    (symbols : List Symbol) : Option Json :=
  (lex? symbols).bind read?

/-- The value of a JSON text. -/
def ofText?
    (s : String) : Option Json :=
  ofSymbols? (Utf8.symbolsOfText s)

/-- The value of a JSON text given as bytes. -/
def ofBytes?
    (bytes : List UInt8) : Option Json :=
  ofSymbols? (Utf8.symbols bytes)

end Json
end AccountMigration
