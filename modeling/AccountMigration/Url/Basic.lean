import AccountMigration.Url.Host
import AccountMigration.Url.Percent

/-!
# URLs with a path

A URL whose path is a list of segments, so that segments can be appended to it.  The text of
the path has a slash in front of every segment; the root path is one empty segment.

* `Url.appendAll` appends segments below a URL.
* `Url.addQuery` appends a pair to the query.
* `Url.toText` is the text of a URL.
-/

namespace AccountMigration

/-- A URL whose path consists of segments.  The parts are percent-encoded already. -/
structure Url where
  scheme : String
  /-- The user name, and the password behind a colon. -/
  userInfo : Option String
  host : Option Host
  port : Option Nat
  path : List String
  query : Option String
  fragment : Option String
  deriving DecidableEq

namespace Url

/-- The schemes with rules of their own, and the port that each of them implies. -/
def specialSchemes : List (String × Option Nat) :=
  [("http", some 80), ("https", some 443), ("ws", some 80), ("wss", some 443),
    ("ftp", some 21), ("file", none)]

/-- Whether a scheme has rules of its own. -/
def isSpecialScheme
    (scheme : String) : Bool :=
  (specialSchemes.lookup scheme).isSome

/-- Whether a URL is special. -/
def isSpecial
    (u : Url) : Bool :=
  isSpecialScheme u.scheme

/-- Whether requests can be sent to a URL. -/
def isHttp
    (u : Url) : Bool :=
  u.scheme = "http" || u.scheme = "https"

/-- Characters that are dropped wherever they stand. -/
def isDropped
    (c : Char) : Bool :=
  c = '\t' || c = '\n' || c = '\r'

/-- A path without an empty segment at its end; the root path stays. -/
def withoutTrailingEmpty
    (path : List String) : List String :=
  if 1 < path.length ∧ path.getLast? = some "" then path.dropLast else path

/-- The path that a segment is appended to: the segment takes the place of the root. -/
def withoutRoot
    (path : List String) : List String :=
  if path = [""] then [] else path

/--
Append a segment to a path.  A segment that is a single or a double dot is passed over.  One
that becomes a dot when the dropped characters are gone acts as in a written path: a single
dot leaves an empty segment, a double dot takes the last segment away as well. -/
def appendSegment
    (special : Bool)
    (path : List String)
    (segment : String) : List String :=
  if segment = "." ∨ segment = ".." then path
  else
    let kept := segment.toList.filter fun c => !isDropped c
    let path := withoutRoot path
    if kept = ['.'] then path ++ [""]
    else if kept = ['.', '.'] then path.dropLast ++ [""]
    else path ++ [String.ofList (Percent.encode (Percent.inSegmentSet special) kept)]

/-- Append segments below a URL; an empty segment at its end makes room for them. -/
def appendAll
    (u : Url)
    (segments : List String) : Url :=
  { u with
    path := segments.foldl (appendSegment u.isSpecial) (withoutTrailingEmpty u.path) }

/-- Append a pair of plain words to the query. -/
def addQuery
    (u : Url)
    (pair : String) : Url :=
  { u with
    query :=
      match u.query with
      | none => some pair
      | some "" => some pair
      | some query => some (query ++ "&" ++ pair) }

/-- A URL without user name and password, which are not part of what is asked for. -/
def withoutUserInfo
    (u : Url) : Url :=
  { u with userInfo := none }

/-- The text of a path. -/
def pathText
    (path : List String) : List Char :=
  path.flatMap fun segment => '/' :: segment.toList

/-- The text of a part behind its mark, if there is such a part. -/
def marked
    (mark : Char) : Option String → List Char
  | some part => mark :: part.toList
  | none => []

/-- The text between scheme and path. -/
def authorityText
    (u : Url) : List Char :=
  match u.host with
  | some host =>
      '/' :: '/' :: (u.userInfo.elim [] fun info => info.toList ++ ['@']) ++ host.toChars
        ++ u.port.elim [] fun port => ':' :: Numeral.digits port
  | none =>
      if 1 < u.path.length ∧ u.path.head? = some "" then ['/', '.'] else []

/-- The text of a URL. -/
def toText
    (u : Url) : String :=
  String.ofList
    (u.scheme.toList ++ ':' :: u.authorityText ++ pathText u.path ++ marked '?' u.query
      ++ marked '#' u.fragment)

end Url

end AccountMigration
