import AccountMigration.Json.Token
import AccountMigration.Text.Utf16

/-!
# From symbols to tokens

The lexical rules of RFC 8259.  A string is read in two steps: first into pieces, a
character or one UTF-16 unit of an escape each, and then into text, where a surrogate
counts only as half of a pair.  Ill-formed bytes are allowed inside strings and nowhere
else.

* `stringBody?` and `assemble`: the two steps of a string;
* `number?`: the spellings of a number;
* `token?` and `lex?`: one token, and all of them.
-/

namespace AccountMigration
namespace Json

open Text Utf16

/-- A part of a string between its quotes. -/
inductive Piece where
  /-- A character that stands for itself or is escaped by a letter. -/
  | char (c : Char)
  /-- A UTF-16 unit escaped by four digits. -/
  | unit (code : Nat)
  /-- An ill-formed part of the input. -/
  | illFormed

/-- The character that a one-letter escape stands for. -/
def escaped? : Char → Option Char
  | '"' => some '"'
  | '\\' => some '\\'
  | '/' => some '/'
  | 'b' => some '\x08'
  | 'f' => some '\x0c'
  | 'n' => some '\n'
  | 'r' => some '\r'
  | 't' => some '\t'
  | _ => none

/-- The value of a hexadecimal digit among the symbols. -/
def hexSymbol?
    (s : Symbol) : Option Nat :=
  s.bind hexValue?

/-- The value of four hexadecimal digits. -/
def hexUnit?
    (a b c d : Symbol) : Option Nat := do
  let a ← hexSymbol? a
  let b ← hexSymbol? b
  let c ← hexSymbol? c
  let d ← hexSymbol? d
  return ((a * 16 + b) * 16 + c) * 16 + d

/-- Read a string up to its closing quote.  Gives the pieces and the symbols behind it. -/
def stringBody? :
    List Symbol → Option (List Piece × List Symbol)
  | [] => none
  | some '"' :: rest => some ([], rest)
  | some '\\' :: some 'u' :: a :: b :: c :: d :: rest =>
      match hexUnit? a b c d, stringBody? rest with
      | some code, some (pieces, behind) => some (.unit code :: pieces, behind)
      | _, _ => none
  | some '\\' :: some e :: rest =>
      match escaped? e, stringBody? rest with
      | some c, some (pieces, behind) => some (.char c :: pieces, behind)
      | _, _ => none
  | some '\\' :: _ => none
  | none :: rest =>
      match stringBody? rest with
      | some (pieces, behind) => some (.illFormed :: pieces, behind)
      | none => none
  | some c :: rest =>
      if c.toNat < 0x20 then none
      else
        match stringBody? rest with
        | some (pieces, behind) => some (.char c :: pieces, behind)
        | none => none

/-- The characters of the pieces, unless one is ill formed or half of a pair only. -/
def assemble :
    List Piece → Option (List Char)
  | [] => some []
  | .char c :: rest => (assemble rest).map (c :: ·)
  | .unit high :: .unit low :: rest =>
      if isHighSurrogate high then
        if isLowSurrogate low then (assemble rest).map (pairChar high low :: ·) else none
      else if isLowSurrogate high then none
      else (assemble (.unit low :: rest)).map (Char.ofNat high :: ·)
  | .unit code :: rest =>
      if isHighSurrogate code || isLowSurrogate code then none
      else (assemble rest).map (Char.ofNat code :: ·)
  | .illFormed :: _ => none

/-- Characters that a number may be spelled with. -/
def isNumberChar
    (c : Char) : Bool :=
  isAsciiDigit c || c = '-' || c = '+' || c = '.' || c = 'e' || c = 'E'

/-- An integer part: digits without a superfluous zero in front. -/
def isWhole : List Char → Bool
  | [] => false
  | ['0'] => true
  | '0' :: _ => false
  | _ => true

/-- An exponent, which may be missing. -/
def isExponent : List Char → Bool
  | [] => true
  | c :: rest =>
      let digits :=
        match rest with
        | '+' :: ds => ds
        | '-' :: ds => ds
        | ds => ds
      (c = 'e' || c = 'E') && !digits.isEmpty && digits.all isAsciiDigit

/-- A fraction and an exponent, each of which may be missing. -/
def isNumberTail : List Char → Bool
  | '.' :: rest =>
      !(rest.takeWhile isAsciiDigit).isEmpty && isExponent (rest.dropWhile isAsciiDigit)
  | rest => isExponent rest

/-- The number behind an optional minus sign. -/
def unsigned?
    (negative : Bool)
    (lexeme cs : List Char) : Option Json :=
  let whole := cs.takeWhile isAsciiDigit
  let tail := cs.dropWhile isAsciiDigit
  if isWhole whole && isNumberTail tail then
    if !tail.isEmpty || (negative && whole = ['0']) then
      some (.real (String.ofList lexeme))
    else if negative then
      some (.int (-Int.ofNat (Numeral.value whole)))
    else
      some (.int (Numeral.value whole))
  else
    none

/-- Read a number from all of the given characters. -/
def number? : List Char → Option Json
  | '-' :: rest => unsigned? true ('-' :: rest) rest
  | cs => unsigned? false cs cs

/-- White space between tokens. -/
def isSpace
    (c : Char) : Bool :=
  c = ' ' || c = '\t' || c = '\n' || c = '\r'

/-- Whether a symbol may belong to a number. -/
def isNumberSymbol : Symbol → Bool
  | some c => isNumberChar c
  | none => false

/-- Drop a word that the symbols must begin with. -/
def afterWord? :
    List Char → List Symbol → Option (List Symbol)
  | [], rest => some rest
  | c :: word, some d :: rest => if c = d then afterWord? word rest else none
  | _ :: _, _ => none

/-- The token that begins with the given character, and the symbols behind it. -/
def tokenFrom?
    (c : Char)
    (rest : List Symbol) : Option (Token × List Symbol) :=
  match c with
  | '[' => some (.beginArray, rest)
  | ']' => some (.endArray, rest)
  | '\x7b' => some (.beginObject, rest)
  | '\x7d' => some (.endObject, rest)
  | ',' => some (.comma, rest)
  | ':' => some (.colon, rest)
  | '"' => (stringBody? rest).map fun (pieces, behind) =>
      (.text ((assemble pieces).map String.ofList), behind)
  | 't' => (afterWord? "rue".toList rest).map fun behind => (.scalar (.bool true), behind)
  | 'f' => (afterWord? "alse".toList rest).map fun behind => (.scalar (.bool false), behind)
  | 'n' => (afterWord? "ull".toList rest).map fun behind => (.scalar .null, behind)
  | c =>
      let lexeme := c :: (rest.takeWhile isNumberSymbol).reduceOption
      (number? lexeme).map fun v => (.scalar v, rest.dropWhile isNumberSymbol)

theorem stringBody?_length
    (s : List Symbol)
    {pieces : List Piece}
    {behind : List Symbol}
    (h : stringBody? s = some (pieces, behind)) :
    behind.length ≤ s.length := by
  fun_induction stringBody? s generalizing pieces behind with
  | case1 => simp at h
  | _ =>
      simp only [List.length_cons]
      grind

theorem afterWord?_length
    (word : List Char)
    (s : List Symbol)
    {behind : List Symbol}
    (h : afterWord? word s = some behind) :
    behind.length ≤ s.length := by
  fun_induction afterWord? word s with
  | case1 rest =>
      simp at h
      simp [h]
  | case2 word d rest ih =>
      have := ih h
      simp
      omega
  | case3 => simp at h
  | case4 => simp at h

/-- What stands behind a token is shorter than the symbols that it was read from. -/
theorem tokenFrom?_length
    {c : Char}
    {rest : List Symbol}
    {t : Token}
    {behind : List Symbol}
    (h : tokenFrom? c rest = some (t, behind)) :
    behind.length < (some c :: rest).length := by
  have hdrop : (rest.dropWhile isNumberSymbol).length ≤ rest.length :=
    (List.dropWhile_sublist isNumberSymbol).length_le
  have hstring := @stringBody?_length rest
  have hword := fun w => @afterWord?_length w rest
  unfold tokenFrom? at h
  split at h <;>
    simp only [Option.map_eq_some_iff, Option.some.injEq, Prod.mk.injEq, Prod.exists] at h <;>
    grind

/-- The tokens of all symbols, when white space is all that separates them. -/
def lex? :
    List Symbol → Option (List Token)
  | [] => some []
  | none :: _ => none
  | some c :: rest =>
      if isSpace c then lex? rest
      else
        match h : tokenFrom? c rest with
        | none => none
        | some (t, behind) =>
            have : behind.length < (some c :: rest).length := tokenFrom?_length h
            (lex? behind).map (t :: ·)
termination_by s => s.length
decreasing_by
  · exact Nat.lt_succ_self rest.length
  · assumption

end Json
end AccountMigration
