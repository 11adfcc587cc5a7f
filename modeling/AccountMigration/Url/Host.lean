import AccountMigration.Text.Blank
import AccountMigration.Text.Lowercase
import AccountMigration.Text.Numeral
import AccountMigration.Text.Split
import AccountMigration.Url.Percent
import AccountMigration.Url.Punycode

/-!
# Hosts

A host is a name, an IPv4 address or an IPv6 address.

* A name of a special URL is percent-decoded, brought into lower case and, where it leaves
  ASCII, encoded label by label.  Characters that have a place in the syntax of URLs are
  refused.
* A name whose last label is a number is an IPv4 address, with one to four parts, each
  decimal, octal or hexadecimal.
* An IPv6 address stands in brackets.
* The name of any other URL is kept as it is.
-/

namespace AccountMigration

open Text

/-- A host. -/
inductive Host where
  | domain (name : String)
  | ipv4 (address : Nat)
  | ipv6 (pieces : List Nat)
  deriving DecidableEq

namespace Host

/-- The value of digits to a base, when all of them belong to it. -/
def digitsValue?
    (base : Nat)
    (cs : List Char) : Option Nat :=
  cs.foldl
    (fun value c =>
      match value, hexValue? c with
      | some n, some d => if d < base then some (n * base + d) else none
      | _, _ => none)
    (some 0)

/-- The value of a part of an IPv4 address; a zero in front means octal, `0x` hexadecimal. -/
def ipv4Part? : List Char → Option Nat
  | [] => none
  | '0' :: 'x' :: rest => digitsValue? 16 rest
  | '0' :: 'X' :: rest => digitsValue? 16 rest
  | '0' :: rest => digitsValue? 8 rest
  | cs => digitsValue? 10 cs

/-- The labels of a name, without the empty one behind a dot at the end. -/
def labels
    (name : List Char) : List (List Char) :=
  let parts := split '.' name
  if 1 < parts.length ∧ parts.getLast? = some [] then parts.dropLast else parts

/-- Whether the last label of a name is a number. -/
def endsInNumber
    (name : List Char) : Bool :=
  match (labels name).getLast? with
  | none => false
  | some [] => false
  | some label => label.all isAsciiDigit || (ipv4Part? label).isSome

/-- The value of the parts of an IPv4 address; the last part fills the bytes that are left. -/
def ipv4Value? : Nat → List Nat → Option Nat
  | _, [] => none
  | left, [last] => if last < 256 ^ left then some last else none
  | 0, _ => none
  | left + 1, part :: rest =>
      if part < 256 then
        (ipv4Value? left rest).map fun value => part * 256 ^ left + value
      else none

/-- Read an IPv4 address. -/
def ipv4?
    (name : List Char) : Option Nat :=
  let parts := labels name
  if parts.length ≤ 4 then (parts.mapM ipv4Part?).bind (ipv4Value? 4) else none

/-- A group of an IPv6 address: one to four hexadecimal digits. -/
def ipv6Group?
    (cs : List Char) : Option Nat :=
  if cs.isEmpty || 4 < cs.length then none else digitsValue? 16 cs

/-- A part of the IPv4 address at the end of an IPv6 address: up to 255, no zero in front. -/
def embeddedPart?
    (cs : List Char) : Option Nat :=
  match cs with
  | '0' :: _ :: _ => none
  | _ => (Numeral.nat? cs).filter fun n => n ≤ 255

/-- The two groups of the IPv4 address at the end of an IPv6 address. -/
def embeddedGroups?
    (cs : List Char) : Option (List Nat) :=
  match (split '.' cs).mapM embeddedPart? with
  | some [a, b, c, d] => some [a * 256 + b, c * 256 + d]
  | _ => none

/-- The groups between colons, where the last part may be an IPv4 address. -/
def ipv6Groups? : List (List Char) → Option (List Nat)
  | [] => some []
  | [last] =>
      if last.contains '.' then embeddedGroups? last else (ipv6Group? last).map fun n => [n]
  | part :: rest =>
      match ipv6Group? part, ipv6Groups? rest with
      | some n, some more => some (n :: more)
      | _, _ => none

/-- Cut a text at the first double colon. -/
def splitDoubleColon? : List Char → Option (List Char × List Char)
  | ':' :: ':' :: rest => some ([], rest)
  | c :: rest => (splitDoubleColon? rest).map fun (front, behind) => (c :: front, behind)
  | [] => none

/-- The groups of a side of a double colon, which may be empty. -/
def sideGroups?
    (cs : List Char) : Option (List Nat) :=
  if cs.isEmpty then some [] else ipv6Groups? (split ':' cs)

/-- Read an IPv6 address: eight groups, or fewer with a double colon for the zeros. -/
def ipv6?
    (cs : List Char) : Option (List Nat) :=
  match splitDoubleColon? cs with
  | none => (ipv6Groups? (split ':' cs)).filter fun groups => groups.length = 8
  | some (front, behind) =>
      if front.contains '.' then none
      else
        match sideGroups? front, sideGroups? behind with
        | some a, some b =>
            if a.length + b.length ≤ 7 then
              some (a ++ List.replicate (8 - (a.length + b.length)) 0 ++ b)
            else none
        | _, _ => none

/-- Characters that are dropped from a name. -/
def ignoredRanges : List CodeRange :=
  [⟨0xAD, 0xAD⟩, ⟨0x34F, 0x34F⟩, ⟨0x180B, 0x180D⟩, ⟨0x180F, 0x180F⟩, ⟨0x200B, 0x200B⟩,
    ⟨0x2060, 0x2060⟩, ⟨0x2064, 0x2064⟩, ⟨0xFE00, 0xFE0F⟩, ⟨0xFEFF, 0xFEFF⟩,
    ⟨0xE0100, 0xE01EF⟩]

/-- Characters outside ASCII that no name may hold. -/
def refusedRanges : List CodeRange :=
  [⟨0x80, 0x9F⟩, ⟨0x200E, 0x200F⟩, ⟨0x2028, 0x202E⟩, ⟨0x2061, 0x2063⟩, ⟨0x2065, 0x206F⟩,
    ⟨0xE000, 0xF8FF⟩, ⟨0xFDD0, 0xFDEF⟩, ⟨0xFFF0, 0xFFFF⟩, ⟨0xE0000, 0xE00FF⟩,
    ⟨0xE01F0, 0x10FFFF⟩]

/-- A character of a name in its normal form: nothing, or one character. -/
def foldChar
    (c : Char) : List Char :=
  if CodeRange.covers ignoredRanges c then []
  else if c = '\u3002' ∨ c = '\uff61' then ['.']
  else if 0xFF01 ≤ c.toNat ∧ c.toNat ≤ 0xFF5E then [lowerChar (Char.ofNat (c.toNat - 0xFEE0))]
  else if c = 'İ' then ['i', '\u0307']
  else [lowerChar c]

/-- The start of an encoded label. -/
def encodedStart : List Char :=
  ['x', 'n', '-', '-']

/-- Whether a character outside ASCII may not stand in a name. -/
def isRefused
    (c : Char) : Bool :=
  !Punycode.isBasic c && (CodeRange.covers refusedRanges c || isBlank c)

/-- Whether a label leaves ASCII, is in its normal form and holds nothing that is refused. -/
def isFolded
    (label : List Char) : Bool :=
  !label.all Punycode.isBasic && label.flatMap foldChar = label && !label.any isRefused

/-- A label in ASCII; one that is encoded already must be the encoding of a folded label. -/
def labelToAscii?
    (label : List Char) : Option (List Char) :=
  if label.all Punycode.isBasic then
    if encodedStart.isPrefixOf label then
      match Punycode.decode? (label.drop 4) with
      | some decoded =>
          if isFolded decoded && Punycode.encode decoded = label.drop 4 then some label else none
      | none => none
    else some label
  else some (encodedStart ++ Punycode.encode label)

/-- Put labels together with dots between them. -/
def joinLabels : List (List Char) → List Char
  | [] => []
  | [label] => label
  | label :: rest => label ++ '.' :: joinLabels rest

/-- Characters that no name of a special URL may hold. -/
def isForbidden
    (c : Char) : Bool :=
  Percent.isControl c || [' ', '"', '#', '%', '/', ':', '<', '>', '?', '@', '[', '\\', ']', '^',
    '\x60', '\x7b', '|', '\x7d'].contains c

/-- The name of a special URL in ASCII. -/
def domainToAscii?
    (name : List Char) : Option (List Char) :=
  if name.any isRefused then none
  else
    match (split '.' (name.flatMap foldChar)).mapM labelToAscii? with
    | none => none
    | some parts =>
        let ascii := joinLabels parts
        if ascii.isEmpty || ascii.any isForbidden then none else some ascii

/-- The address in brackets. -/
def bracketed?
    (cs : List Char) : Option Host :=
  if cs.getLast? = some ']' then ((ipv6? (cs.drop 1).dropLast).map .ipv6) else none

/-- Read the host of a special URL. -/
def special?
    (cs : List Char) : Option Host :=
  if cs.head? = some '[' then bracketed? cs
  else
    match (Utf8.text? (Percent.decode cs)).bind fun s => domainToAscii? s.toList with
    | none => none
    | some ascii =>
        if endsInNumber ascii then (ipv4? ascii).map .ipv4
        else some (.domain (String.ofList ascii))

/-- Characters that no name of any other URL may hold. -/
def isForbiddenElsewhere
    (c : Char) : Bool :=
  ['\x00', '\t', '\n', '\r', ' ', '#', '/', ':', '<', '>', '?', '@', '[', '\\', ']', '^',
    '|'].contains c

/-- Read the host of a URL that is not special. -/
def other?
    (cs : List Char) : Option Host :=
  if cs.head? = some '[' then bracketed? cs
  else if cs.any isForbiddenElsewhere then none
  else some (.domain (String.ofList (Percent.encode Percent.isControl cs)))

/-- The text of an IPv4 address. -/
def ipv4Text
    (address : Nat) : List Char :=
  Numeral.digits (address / 16777216) ++ '.' :: Numeral.digits (address / 65536 % 256)
    ++ '.' :: Numeral.digits (address / 256 % 256) ++ '.' :: Numeral.digits (address % 256)

/-- The number of zeros in front. -/
def zeros
    (pieces : List Nat) : Nat :=
  (pieces.takeWhile fun n => n = 0).length

/-- The most zeros in a row. -/
def longestZeros : List Nat → Nat
  | [] => 0
  | n :: rest => max (zeros (n :: rest)) (longestZeros rest)

/-- The groups of an IPv6 address with colons between them. -/
def groupsText : List Nat → List Char
  | [] => []
  | [n] => Nat.toDigits 16 n
  | n :: rest => Nat.toDigits 16 n ++ ':' :: groupsText rest

/-- The groups in front of the first run of that many zeros, and those behind it. -/
def cutZeros
    (run : Nat) :
    List Nat → List Nat × List Nat
  | [] => ([], [])
  | n :: rest =>
      if zeros (n :: rest) = run then ([], (n :: rest).drop run)
      else
        let (front, behind) := cutZeros run rest
        (n :: front, behind)

/-- The text of an IPv6 address; the first of the longest runs of zeros is left out. -/
def ipv6Text
    (pieces : List Nat) : List Char :=
  let run := longestZeros pieces
  if run < 2 then groupsText pieces
  else
    let (front, behind) := cutZeros run pieces
    groupsText front ++ ':' :: ':' :: groupsText behind

/-- The text of a host. -/
def toChars : Host → List Char
  | .domain name => name.toList
  | .ipv4 address => ipv4Text address
  | .ipv6 pieces => '[' :: ipv6Text pieces ++ [']']

end Host

end AccountMigration
