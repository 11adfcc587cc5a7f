/-!
# JSON values

The tree of a JSON text.  Objects keep their members in the order of the text, and a name
may occur twice: whether that is an error is for the reader of a record to say.

A string of a JSON text need not be Unicode text, since it may hold a lone surrogate or
ill-formed bytes.  Such a string is `none`; it is harmless where it is skipped over and an
error where its text is asked for.
-/

namespace AccountMigration

/-- A JSON value. -/
inductive Json where
  | null
  | bool (value : Bool)
  /-- A number without fraction and exponent, minus zero apart. -/
  | int (value : Int)
  /-- Any other number, as it is spelled. -/
  | real (lexeme : String)
  /-- A string, absent when it is not Unicode text. -/
  | str (text : Option String)
  | arr (items : List Json)
  | obj (members : List (Option String × Json))

namespace Json

/-- A property of all values holds of arrays and objects when it holds of their parts. -/
@[elab_as_elim]
theorem induction
    {motive : Json → Prop}
    (null : motive .null)
    (bool : ∀ value, motive (.bool value))
    (int : ∀ value, motive (.int value))
    (real : ∀ lexeme, motive (.real lexeme))
    (str : ∀ text, motive (.str text))
    (arr : ∀ items, (∀ v ∈ items, motive v) → motive (.arr items))
    (obj : ∀ members, (∀ m ∈ members, motive m.2) → motive (.obj members))
    (v : Json) :
    motive v := by
  refine @Json.rec motive (fun items => ∀ v ∈ items, motive v)
    (fun members => ∀ m ∈ members, motive m.2) (fun m => motive m.2)
    null bool int real str arr obj ?_ ?_ ?_ ?_ ?_ v
  · nofun
  · intro head tail hhead htail
    exact List.forall_mem_cons.mpr ⟨hhead, htail⟩
  · nofun
  · intro head tail hhead htail
    exact List.forall_mem_cons.mpr ⟨hhead, htail⟩
  · intro _ value hvalue
    exact hvalue

/-- A string that is Unicode text. -/
def text
    (s : String) : Json :=
  .str (some s)

/-- A number that is not negative. -/
def nat
    (n : Nat) : Json :=
  .int n

/-- An optional value: `null` when it is absent. -/
def ofOption
    {α : Type}
    (write : α → Json) : Option α → Json
  | none => .null
  | some a => write a

/-- A list of values. -/
def list
    {α : Type}
    (write : α → Json)
    (as : List α) : Json :=
  .arr (as.map write)

/-- An object with the given members in order. -/
def record
    (members : List (String × Json)) : Json :=
  .obj (members.map fun m => (some m.1, m.2))

end Json

end AccountMigration
