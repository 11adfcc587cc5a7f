/-!
# Punycode

The encoding of RFC 3492 for labels of host names with characters outside ASCII.  The ASCII
characters come first; the others are inserted in the order of their code points, each
place as the distance from the one before, in digits to base 36 whose thresholds adapt.

* `Punycode.encode` writes a label, `Punycode.decode?` reads one.
-/

namespace AccountMigration
namespace Punycode

/-- The digit of a value below 36. -/
def digitChar
    (value : Nat) : Char :=
  if value < 26 then Char.ofNat (0x61 + value) else Char.ofNat (0x16 + value)

/-- The value of a digit in either case. -/
def digitValue?
    (c : Char) : Option Nat :=
  if 'a' ≤ c ∧ c ≤ 'z' then some (c.toNat - 0x61)
  else if 'A' ≤ c ∧ c ≤ 'Z' then some (c.toNat - 0x41)
  else if '0' ≤ c ∧ c ≤ '9' then some (c.toNat - 0x16)
  else none

/-- The least value of a digit that is followed by another one. -/
def threshold
    (k bias : Nat) : Nat :=
  if k ≤ bias then 1 else if bias + 26 ≤ k then 26 else k - bias

theorem threshold_bounds
    (k bias : Nat) :
    1 ≤ threshold k bias ∧ threshold k bias ≤ 26 := by
  unfold threshold
  split
  · omega
  · split <;> omega

/-- Scale a distance down to the range of a single digit and count the steps. -/
def scaleDown
    (delta k : Nat) : Nat × Nat :=
  if 455 < delta then scaleDown (delta / 35) (k + 36) else (delta, k)
termination_by delta
decreasing_by
  omega

/-- The bias after a distance, given how many characters are placed. -/
def adapt
    (delta placed : Nat)
    (isFirst : Bool) : Nat :=
  let damped := if isFirst then delta / 700 else delta / 2
  let (rest, k) := scaleDown (damped + damped / placed) 0
  k + 36 * rest / (rest + 38)

/-- The digits of a distance. -/
def encodeDistance
    (bias k q : Nat) : List Char :=
  let t := threshold k bias
  if q < t then [digitChar q]
  else digitChar (t + (q - t) % (36 - t)) :: encodeDistance bias (k + 36) ((q - t) / (36 - t))
termination_by q
decreasing_by
  have h := threshold_bounds k bias
  have : (q - threshold k bias) / (36 - threshold k bias) ≤ q - threshold k bias :=
    Nat.div_le_self _ _
  omega

/-- What is written so far, and the distance from the last place. -/
structure Encoder where
  written : List Char
  delta : Nat
  bias : Nat
  placed : Nat

/-- Pass a character of the label while the given code point is being placed. -/
def Encoder.pass
    (basic code : Nat)
    (e : Encoder)
    (c : Char) : Encoder :=
  if c.toNat < code then { e with delta := e.delta + 1 }
  else if c.toNat = code then
    { written := e.written ++ encodeDistance e.bias 36 e.delta
      delta := 0
      bias := adapt e.delta (e.placed + 1) (e.placed = basic)
      placed := e.placed + 1 }
  else e

/-- Place the given code points, which ascend, in a label; `next` is the least that is left. -/
def encodeCodes
    (label : List Char)
    (basic : Nat) :
    List Nat → Nat → Encoder → Encoder
  | [], _, e => e
  | code :: rest, next, e =>
      let e := { e with delta := e.delta + (code - next) * (e.placed + 1) }
      let e := label.foldl (Encoder.pass basic code) e
      encodeCodes label basic rest (code + 1) { e with delta := e.delta + 1 }

/-- Put a number into an ascending list without repetitions. -/
def insertSorted
    (n : Nat) :
    List Nat → List Nat
  | [] => [n]
  | m :: rest =>
      if n < m then n :: m :: rest
      else if n = m then m :: rest
      else m :: insertSorted n rest

/-- Whether a character belongs to ASCII. -/
def isBasic
    (c : Char) : Bool :=
  c.toNat < 0x80

/-- The encoding of a label. -/
def encode
    (label : List Char) : List Char :=
  let basic := label.filter isBasic
  let codes := ((label.filter fun c => !isBasic c).map Char.toNat).foldr insertSorted []
  let delimited := if basic.isEmpty then [] else basic ++ ['-']
  (encodeCodes label basic.length codes 0x80 ⟨delimited, 0, 72, basic.length⟩).written

/-- Read a distance: the place it leads to, and the digits behind it. -/
def decodeDistance?
    (bias : Nat) :
    List Char → Nat → Nat → Nat → Option (Nat × List Char)
  | [], _, _, _ => none
  | c :: rest, k, weight, place =>
      match digitValue? c with
      | none => none
      | some d =>
          let t := threshold k bias
          if d < t then some (place + d * weight, rest)
          else decodeDistance? bias rest (k + 36) (weight * (36 - t)) (place + d * weight)

theorem decodeDistance?_length
    {bias : Nat}
    {cs : List Char}
    {k weight place : Nat}
    {out : Nat × List Char}
    (h : decodeDistance? bias cs k weight place = some out) :
    out.2.length < cs.length := by
  induction cs generalizing k weight place with
  | nil =>
      simp [decodeDistance?] at h
  | cons c rest ih =>
      simp only [decodeDistance?] at h
      split at h
      · simp at h
      · split at h
        · simp only [Option.some.injEq] at h
          simp [← h]
        · have := ih h
          simp
          omega

/-- Insert the characters of the given digits into a label, from a code point and a place. -/
def decodeFrom?
    (digits label : List Char)
    (code place bias : Nat) : Option (List Char) :=
  if digits = [] then some label
  else
    match h : decodeDistance? bias digits 36 1 place with
    | none => none
    | some (target, rest) =>
        have : rest.length < digits.length := decodeDistance?_length h
        let size := label.length + 1
        let code := code + target / size
        let spot := target % size
        if 0x110000 ≤ code ∨ (0xD800 ≤ code ∧ code < 0xE000) then none
        else
          decodeFrom? rest (label.take spot ++ Char.ofNat code :: label.drop spot) code (spot + 1)
            (adapt (target - place) size (place = 0 ∧ label.all isBasic))
termination_by digits.length

/-- The label of an encoding. -/
def decode?
    (cs : List Char) : Option (List Char) :=
  let behind := cs.reverse.takeWhile fun c => c ≠ '-'
  let digits := behind.reverse
  let basic := (cs.take (cs.length - digits.length)).dropLast
  if cs.all isBasic then decodeFrom? digits basic 0x80 0 72 else none

end Punycode
end AccountMigration
