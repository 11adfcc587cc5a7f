import AccountMigration.Url.Basic

/-!
# Reading URLs

A URL is read by the rules of the URL standard, without a base: blanks and control
characters around it and line breaks inside it do not count, a special URL takes
backslashes for slashes, and dot segments are resolved.  A URL whose path does not consist of
segments, such as a mail address, is refused.
-/

namespace AccountMigration
namespace Url

open Text

/-- Control characters and blanks, which may stand around a URL. -/
def isPadding
    (c : Char) : Bool :=
  c.toNat ≤ 0x20

/-- The characters of a URL that count. -/
def significant
    (cs : List Char) : List Char :=
  let front := cs.dropWhile isPadding
  ((front.reverse.dropWhile isPadding).reverse).filter fun c => !isDropped c

/-- ASCII letters. -/
def isLetter
    (c : Char) : Bool :=
  ('a' ≤ c && c ≤ 'z') || ('A' ≤ c && c ≤ 'Z')

/-- Characters of a scheme behind its first letter. -/
def isSchemeChar
    (c : Char) : Bool :=
  isLetter c || isAsciiDigit c || c = '+' || c = '-' || c = '.'

/-- Read the scheme and its colon. -/
def readScheme? : List Char → Option (String × List Char)
  | [] => none
  | c :: rest =>
      if isLetter c then
        match rest.dropWhile isSchemeChar with
        | ':' :: behind =>
            let scheme := c :: rest.takeWhile isSchemeChar
            some (String.ofList (scheme.map lowerAsciiChar), behind)
        | _ => none
      else none

/-- Slashes, and the backslashes of a special URL. -/
def isSlash
    (special : Bool)
    (c : Char) : Bool :=
  c = '/' || (special && c = '\\')

/-- Characters that end the authority. -/
def endsAuthority
    (special : Bool)
    (c : Char) : Bool :=
  isSlash special c || c = '?' || c = '#'

/-- The text in front of and behind the last at sign. -/
def splitUserInfo
    (authority : List Char) : Option (List Char) × List Char :=
  let behind := (authority.reverse.takeWhile fun c => c ≠ '@').reverse
  if authority.contains '@' then
    (some (authority.take (authority.length - behind.length - 1)), behind)
  else (none, authority)

/-- The user name and the password as they are written, absent when both are empty. -/
def userInfoText
    (info : List Char) : Option String :=
  let encode := Percent.encode Percent.inUserInfoSet
  match splitOnce? ':' info with
  | none => if info.isEmpty then none else some (String.ofList (encode info))
  | some (user, password) =>
      if password.isEmpty then
        if user.isEmpty then none else some (String.ofList (encode user))
      else some (String.ofList (encode user ++ ':' :: encode password))

/-- Cut a host and its port at the first colon that no brackets enclose. -/
def splitPort
    (insideBrackets : Bool) :
    List Char → List Char × Option (List Char)
  | [] => ([], none)
  | c :: rest =>
      if c = ':' && !insideBrackets then ([], some rest)
      else
        let inside := if c = '[' then true else if c = ']' then false else insideBrackets
        let (host, port) := splitPort inside rest
        (c :: host, port)

/-- Read a port; the one that the scheme implies is left out. -/
def readPort?
    (implied : Option Nat)
    (cs : List Char) : Option (Option Nat) :=
  if cs.isEmpty then some none
  else
    match (Numeral.nat? cs).filter fun n => n ≤ 65535 with
    | none => none
    | some n => some (if implied = some n then none else some n)

/-- Who a URL is addressed to. -/
structure Authority where
  userInfo : Option String
  host : Host
  port : Option Nat

/-- Read the authority of a URL. -/
def readAuthority?
    (scheme : String)
    (cs : List Char) : Option Authority := do
  let special := isSpecialScheme scheme
  let (info, hostPort) := splitUserInfo cs
  let (hostText, portText) := splitPort false hostPort
  if hostText.isEmpty && (special || portText.isSome || (info.bind userInfoText).isSome) then
    none
  else
    let host ← if special then Host.special? hostText else Host.other? hostText
    let port ← readPort? ((specialSchemes.lookup scheme).join) (portText.getD [])
    return ⟨info.bind userInfoText, host, port⟩

/-- Whether a written segment is a single dot. -/
def isSingleDot
    (cs : List Char) : Bool :=
  let word := cs.map lowerAsciiChar
  word = ['.'] || word = "%2e".toList

/-- Whether a written segment is a double dot. -/
def isDoubleDot
    (cs : List Char) : Bool :=
  let word := cs.map lowerAsciiChar
  word = "..".toList || word = ".%2e".toList || word = "%2e.".toList || word = "%2e%2e".toList

/-- Append the written segments of a path, resolving dots. -/
def resolve :
    List String → List (List Char) → List String
  | path, [] => path
  | path, segment :: rest =>
      if isDoubleDot segment then
        resolve (if rest.isEmpty then path.dropLast ++ [""] else path.dropLast) rest
      else if isSingleDot segment then
        resolve (if rest.isEmpty then path ++ [""] else path) rest
      else
        resolve (path ++ [String.ofList (Percent.encode Percent.inPathSet segment)]) rest

/-- The segments of a path text; the path of a special URL has at least one. -/
def pathSegments
    (special : Bool)
    (cs : List Char) : List String :=
  let slashed := if special then cs.map fun c => if c = '\\' then '/' else c else cs
  match slashed with
  | [] => if special then [""] else []
  | '/' :: rest => resolve [] (split '/' rest)
  | rest => resolve [] (split '/' rest)

/-- The parts of a URL behind its authority. -/
def withTail
    (scheme : String)
    (userInfo : Option String)
    (host : Option Host)
    (port : Option Nat)
    (cs : List Char) : Url :=
  let special := isSpecialScheme scheme
  let inQuery := if special then Percent.inSpecialQuerySet else Percent.inQuerySet
  let pathText := cs.takeWhile fun c => c ≠ '?' ∧ c ≠ '#'
  let behindPath := cs.drop pathText.length
  let queryText := (behindPath.drop 1).takeWhile fun c => c ≠ '#'
  let hasQuery := behindPath.head? = some '?'
  let behindQuery := if hasQuery then behindPath.drop (queryText.length + 1) else behindPath
  { scheme
    userInfo
    host
    port
    path := pathSegments special pathText
    query := if hasQuery then some (String.ofList (Percent.encode inQuery queryText)) else none
    fragment :=
      if behindQuery.isEmpty then none
      else some (String.ofList (Percent.encode Percent.inFragmentSet (behindQuery.drop 1))) }

/-- Read what follows the two slashes in front of an authority. -/
def readBehindSlashes?
    (scheme : String)
    (cs : List Char) : Option Url :=
  let written := cs.takeWhile fun c => !endsAuthority (isSpecialScheme scheme) c
  (readAuthority? scheme written).map fun a =>
    withTail scheme a.userInfo (some a.host) a.port (cs.drop written.length)

/-- The host of a file URL, which is empty for files of this machine. -/
def readFileHost?
    (cs : List Char) : Option Host :=
  if cs.isEmpty then some (.domain "")
  else (Host.special? cs).map fun host => if host = .domain "localhost" then .domain "" else host

/-- Read what follows the colon of a file URL. -/
def readFile?
    (cs : List Char) : Option Url :=
  match cs with
  | a :: b :: rest =>
      if isSlash true a && isSlash true b then
        let written := rest.takeWhile fun c => !endsAuthority true c
        (readFileHost? written).map fun host =>
          withTail "file" none (some host) none (rest.drop written.length)
      else some (withTail "file" none (some (.domain "")) none cs)
  | _ => some (withTail "file" none (some (.domain "")) none cs)

/-- Read a URL whose path consists of segments. -/
def ofText?
    (s : String) : Option Url :=
  match readScheme? (significant s.toList) with
  | none => none
  | some (scheme, rest) =>
      if scheme = "file" then readFile? rest
      else if isSpecialScheme scheme then readBehindSlashes? scheme (rest.dropWhile (isSlash true))
      else
        match rest with
        | '/' :: '/' :: behind => readBehindSlashes? scheme behind
        | '/' :: _ => some (withTail scheme none none none rest)
        | _ => none

end Url
end AccountMigration
