import AccountMigration.Text.CaseTable

/-!
# Full lower casing

Every character is replaced by its lower case, with two rules that go beyond a table:

* a capital sigma that ends a word becomes a final sigma, any other a small sigma;
* the dotted capital I becomes a small i followed by a combining dot.

A sigma ends a word when a cased letter stands before it and none stands after it, where
case-ignorable characters are looked through on both sides.
-/

namespace AccountMigration
namespace Text

/-- The lower case of a code point, when it differs and is a single character. -/
def CaseRun.image?
    (run : CaseRun)
    (code : Nat) : Option Nat :=
  if run.first ≤ code ∧ code ≤ run.last ∧ (code - run.first) % run.stride = 0 then
    some (run.image + (code - run.first))
  else
    none

/-- The lower case of a character that does not depend on its neighbours. -/
def lowerChar
    (c : Char) : Char :=
  match lowercaseRuns.findSome? fun run => run.image? c.toNat with
  | some code => Char.ofNat code
  | none => c

/-- Letters that have a case, and their modifiers. -/
def isCased
    (c : Char) : Bool :=
  CodeRange.covers casedRanges c

/-- Marks and punctuation that are looked through in search of a cased letter. -/
def isCaseIgnorable
    (c : Char) : Bool :=
  CodeRange.covers caseIgnorableRanges c

/-- Whether the first character that is not case-ignorable is cased. -/
def startsCased
    (cs : List Char) : Bool :=
  match cs.dropWhile isCaseIgnorable with
  | [] => false
  | c :: _ => isCased c

/--
Whether a sigma ends a word.  `before` lists the characters in front of it from the nearest
to the farthest, and `after` those behind it. -/
def endsWord
    (before after : List Char) : Bool :=
  startsCased before && !startsCased after

/-- The lower case of one character between its neighbours. -/
def lowerBetween
    (before : List Char)
    (c : Char)
    (after : List Char) : List Char :=
  if c = 'Σ' then
    [if endsWord before after then 'ς' else 'σ']
  else if c = 'İ' then
    ['i', '\u0307']
  else
    [lowerChar c]

/-- Lower the characters of the second list, with the first list in front of them. -/
def lowerFrom
    (before : List Char) :
    List Char → List Char
  | [] => []
  | c :: after =>
      lowerBetween before c after ++ lowerFrom (c :: before) after

/-- The lower case of a text. -/
def lowercase
    (s : String) : String :=
  String.ofList (lowerFrom [] s.toList)

@[simp] theorem lowerFrom_nil
    (before : List Char) :
    lowerFrom before [] = [] := by
  rfl

@[simp] theorem lowerFrom_cons
    (before : List Char)
    (c : Char)
    (after : List Char) :
    lowerFrom before (c :: after) =
      lowerBetween before c after ++ lowerFrom (c :: before) after := by
  rfl

end Text
end AccountMigration
