import AccountMigration.Settings.Choice
import AccountMigration.Text.Ascii
import AccountMigration.Text.DecimalDigit

/-!
# Algorithms of password hashes

The algorithm of a hash is told by its first characters, and that of a bare digest by its
number of hexadecimal digits.  The algorithm of a sample is the one that most of its hashes
have; of two that are equally frequent, the one that comes first in `HashAlgorithm.all`.

* `HashAlgorithm.ofHash`: the algorithm of a hash.
* `HashAlgorithm.ofSample`: the algorithm of a sample.
* `isCompleteBcrypt`: whether a hash has all the parts of a bcrypt hash.
-/

namespace AccountMigration

open Text

/-- An algorithm that password hashes are made with. -/
inductive HashAlgorithm where
  | bcrypt
  | argon2
  | scrypt
  | pbkdf2
  | sha256
  | md5
  | sha1
  | unknown
  deriving DecidableEq

namespace HashAlgorithm

/-- The algorithms in the order in which they are preferred. -/
def all : List HashAlgorithm :=
  [.bcrypt, .argon2, .scrypt, .pbkdf2, .sha256, .md5, .sha1, .unknown]

/-- The place of an algorithm among all. -/
def rank : HashAlgorithm → Nat
  | .bcrypt => 0
  | .argon2 => 1
  | .scrypt => 2
  | .pbkdf2 => 3
  | .sha256 => 4
  | .md5 => 5
  | .sha1 => 6
  | .unknown => 7

/-- The name of an algorithm. -/
def name : HashAlgorithm → String
  | .bcrypt => "bcrypt"
  | .argon2 => "argon2"
  | .scrypt => "scrypt"
  | .pbkdf2 => "pbkdf2"
  | .sha256 => "sha256"
  | .md5 => "md5"
  | .sha1 => "sha1"
  | .unknown => "unknown"

/-- The versions of bcrypt. -/
def isBcryptVersion
    (c : Char) : Bool :=
  c = 'a' || c = 'b' || c = 'y'

/-- Whether a hash begins as bcrypt hashes do. -/
def startsAsBcrypt : List Char → Bool
  | '$' :: '2' :: version :: '$' :: _ => isBcryptVersion version
  | _ => false

/-- Whether a hash begins with a word. -/
def startsWith
    (word : String)
    (hash : List Char) : Bool :=
  word.toList.isPrefixOf hash

/-- The algorithm of a bare digest with a number of hexadecimal digits. -/
def ofDigestLength : Nat → HashAlgorithm
  | 64 => .sha256
  | 32 => .md5
  | 40 => .sha1
  | _ => .unknown

/-- The algorithm of a hash given as characters. -/
def ofChars
    (hash : List Char) : HashAlgorithm :=
  if startsAsBcrypt hash then .bcrypt
  else if startsWith "$argon2" hash then .argon2
  else if startsWith "$scrypt" hash then .scrypt
  else if startsWith "pbkdf2" hash then .pbkdf2
  else ofDigestLength (hash.countP isHexDigit)

/-- The algorithm of a hash. -/
def ofHash
    (hash : String) : HashAlgorithm :=
  ofChars hash.toList

/-- Count one more hash of an algorithm. -/
def count
    (a : HashAlgorithm) :
    List (HashAlgorithm × Nat) → List (HashAlgorithm × Nat)
  | [] => [(a, 1)]
  | entry :: rest =>
      if entry.1 = a then (a, entry.2 + 1) :: rest else entry :: count a rest

/-- How often each algorithm occurs in a sample. -/
def tally
    (hashes : List String) : List (HashAlgorithm × Nat) :=
  hashes.foldl (fun counts hash => count (ofHash hash) counts) []

/-- Whether the first entry is ahead of the second: more frequent, or preferred in a tie. -/
def isAhead
    (a b : HashAlgorithm × Nat) : Bool :=
  b.2 < a.2 || (a.2 = b.2 && a.1.rank < b.1.rank)

/-- The entry that is ahead of all others. -/
def leader? : List (HashAlgorithm × Nat) → Option (HashAlgorithm × Nat)
  | [] => none
  | entry :: rest =>
      match leader? rest with
      | none => some entry
      | some best => if isAhead entry best then some entry else some best

/-- The algorithm of most hashes of a sample. -/
def ofSample
    (hashes : List String) : HashAlgorithm :=
  match leader? (tally hashes) with
  | some entry => entry.1
  | none => .unknown

end HashAlgorithm

/-- The characters of the salt and the digest of a bcrypt hash. -/
def isBcryptChar
    (c : Char) : Bool :=
  c = '.' || c = '/' || isAsciiDigit c || ('a' ≤ c && c ≤ 'z') || ('A' ≤ c && c ≤ 'Z')

/-- Whether characters are a whole bcrypt hash: version, cost, salt and digest. -/
def isBcryptShape : List Char → Bool
  | '$' :: '2' :: version :: '$' :: cost :: cost' :: '$' :: rest =>
      HashAlgorithm.isBcryptVersion version && isDecimalDigit cost && isDecimalDigit cost'
        && rest.length = 53 && rest.all isBcryptChar
  | _ => false

/-- Whether a hash has all the parts of a bcrypt hash. -/
def isCompleteBcrypt
    (hash : String) : Bool :=
  isBcryptShape hash.toList

end AccountMigration
