import AccountMigration.Service.Target
import AccountMigration.Settings.Basic
import AccountMigration.Url.Reader

/-!
# The service over HTTP

A client turns every call into one request below the base URL of the service, and the answer
to the request into a reply.

* `Client.ofAddress` is the client of an address, unless the address cannot be used.
* `Client.request?` is the request of a call; a blank id names nobody, so no request is made
  for it.
* `Libraries` is what a client leaves to others: the encodings of texts, and the words of the JSON
  reader.
* `Libraries.bodyText` is the text of a body.
* `Reply.ofAnswer` and `Reply.ofLookup` read the answer to a request.
* `Client.target` is the service that a client sees over a link.

Of the headers of an answer only the character set matters, and only for the text of a refusal.
Redirects, compression and time limits belong to the link.
-/

namespace AccountMigration

open Text

/-- The method of a request. -/
inductive Method where
  | get
  | post
  deriving DecidableEq

/-- The name of a method. -/
def Method.name : Method → String
  | .get => "GET"
  | .post => "POST"

/-- A request: its URL, headers that name the client, and a body that is posted. -/
structure HttpRequest where
  method : Method
  url : Url
  headers : List (String × String)
  body : Option Json

/-- An answer: a status code, and a body of any bytes. -/
structure HttpAnswer where
  status : Nat
  body : List UInt8
  /-- The character set that the header `Content-Type` names. -/
  charset : Option String := none

/-- What carries requests to the service: an answer, or the reason why there is none. -/
abbrev Link :=
  List Call → HttpRequest → Except String HttpAnswer

/-- What a client leaves to others. -/
structure Libraries where
  /-- How the bytes of a character set are read, when there is such a character set. -/
  decoder? : String → Option (List UInt8 → String) := fun _ => none
  /-- What the JSON reader says about a body that is no answer to a call. -/
  complaint : Call → List UInt8 → String := fun _ _ => ""

/-- A client of the service. -/
structure Client where
  base : Url
  apiKey : String
  applicationId : String
  libraries : Libraries := {}

/-- The header that holds the key of the client. -/
def apiKeyHeader : String :=
  "X-API-Key"

/-- The header that names the application. -/
def applicationHeader : String :=
  "X-Application-ID"

/-- Whether a text can be the value of a header: no control characters but the tab. -/
def isHeaderValue
    (s : String) : Bool :=
  s.toList.all fun c => c = '\t' || (0x20 ≤ c.toNat && c.toNat ≠ 0x7F)

namespace Client

/-- The client of an address. -/
def ofAddress
    (a : ServiceAddress) : Except ConfigError Client :=
  match Url.ofText? (trim a.baseUrl) with
  | none => .error (.invalidBaseUrl a.baseUrl)
  | some base =>
      if !isHeaderValue a.apiKey then .error (.invalidHeader apiKeyHeader)
      else if !isHeaderValue a.applicationId then .error (.invalidHeader applicationHeader)
      else .ok { base, apiKey := a.apiKey, applicationId := a.applicationId }

/-- The path of the accounts. -/
def usersPath : List String :=
  ["api", "admin", "users"]

/-- The path of the applications. -/
def applicationsPath : List String :=
  ["api", "admin", "applications"]

/-- The headers of every request. -/
def headers
    (client : Client) : List (String × String) :=
  [(apiKeyHeader, client.apiKey), (applicationHeader, client.applicationId)]

/-- The header of a request with a body. -/
def bodyHeader : String × String :=
  ("Content-Type", "application/json")

/-- A request that asks for something. -/
def get
    (client : Client)
    (url : Url) : HttpRequest :=
  ⟨.get, url, client.headers, none⟩

/-- A request that asks for a count: one entry of a list is enough. -/
def getCount
    (client : Client)
    (path : List String) : HttpRequest :=
  client.get ((client.base.appendAll path).addQuery "per_page=1")

/-- The request that submits a batch. -/
def importRequest
    (client : Client)
    (request : ImportRequest) : HttpRequest :=
  ⟨.post, client.base.appendAll (usersPath ++ ["import"]), client.headers ++ [bodyHeader],
    some request.toJson⟩

/-- The request that counts the accounts. -/
def usersRequest
    (client : Client) : HttpRequest :=
  client.getCount usersPath

/-- The request that counts the accounts of the application. -/
def profilesRequest
    (client : Client) : HttpRequest :=
  client.getCount (applicationsPath ++ [client.applicationId, "users"])

/-- The request that looks up an account. -/
def lookupRequest
    (client : Client)
    (id : String) : HttpRequest :=
  client.get (client.base.appendAll (usersPath ++ [id]))

/-- The request of a call; a blank id names nobody, so no request is made for it. -/
def request?
    (client : Client) :
    Call → Option HttpRequest
  | .bulkImport request => some (client.importRequest request)
  | .countUsers => some client.usersRequest
  | .countProfiles => some client.profilesRequest
  | .findUser id => if isBlankText id then none else some (client.lookupRequest id)

end Client

namespace Libraries

/-- How the bytes of a named character set are read; without a name that is known they are taken
for UTF-8, and ill-formed parts are replaced. -/
def decode
    (libraries : Libraries)
    (charset : Option String) : List UInt8 → String :=
  (charset.bind libraries.decoder?).getD Utf8.lossy

/-- The text of a body: a byte order mark in front tells its encoding and is dropped, and otherwise
the character set does. -/
def bodyText
    (libraries : Libraries)
    (charset : Option String) : List UInt8 → String
  | 0xEF :: 0xBB :: 0xBF :: rest => Utf8.lossy rest
  | 0xFF :: 0xFE :: rest => Utf16.lossy Utf16.littleEndian rest
  | 0xFE :: 0xFF :: rest => Utf16.lossy Utf16.bigEndian rest
  | body => libraries.decode charset body

/-- The text of an answer. -/
def textOf
    (libraries : Libraries)
    (answer : HttpAnswer) : String :=
  libraries.bodyText answer.charset answer.body

end Libraries

namespace Reply

/-- Read the answer to a request by its status and its body. -/
def ofAnswer
    {α : Type}
    (libraries : Libraries)
    (read : Json → Option α)
    (answer : HttpAnswer) : Reply α :=
  if Status.isSuccess answer.status then
    match (Json.ofBytes? answer.body).bind read with
    | some value => .answered value
    | none => .failed .undecodable
  else .failed (.status answer.status (libraries.textOf answer))

/-- Read the answer to a lookup, where a missing resource means that there is no such user. -/
def ofLookup
    (libraries : Libraries)
    (answer : HttpAnswer) : Reply (Option TargetUser) :=
  if answer.status = Status.notFound then .answered none
  else ofAnswer libraries (fun v => (TargetUser.ofJson? v).map some) answer

end Reply

namespace HttpRequest

/-- Why a request that HTTP cannot carry is not even sent. -/
def unsendable
    (request : HttpRequest) : String :=
  "builder error for url (" ++ request.url.withoutUserInfo.toText ++ ")"

/-- Send a request over a link and read the answer; only HTTP requests can be sent. -/
def exchange
    {α : Type}
    (link : Link)
    (calls : List Call)
    (read : HttpAnswer → Reply α)
    (request : HttpRequest) : Reply α :=
  if request.url.isHttp then
    match link calls request with
    | .ok answer => read answer
    | .error reason => .failed (.undelivered reason)
  else .failed (.undelivered request.unsendable)

end HttpRequest

namespace Client

/-- The reply to a call that is made over a link after other calls. -/
def reply
    (client : Client)
    (link : Link)
    (calls : List Call) :
    (call : Call) → Reply call.Answer
  | .bulkImport request =>
      (client.importRequest request).exchange link calls
        (.ofAnswer client.libraries ImportResponse.ofJson?)
  | .countUsers =>
      client.usersRequest.exchange link calls (.ofAnswer client.libraries readTotal?)
  | .countProfiles =>
      client.profilesRequest.exchange link calls (.ofAnswer client.libraries readTotal?)
  | .findUser id =>
      if isBlankText id then .answered none
      else (client.lookupRequest id).exchange link calls (.ofLookup client.libraries)

/-- What the JSON reader says about the answer to a call. -/
def complaint?
    (client : Client)
    (link : Link)
    (calls : List Call)
    (call : Call) : Option String :=
  (client.request? call).bind fun request =>
    (link calls request).toOption.map fun answer =>
      client.libraries.complaint call answer.body

/-- The service that a client sees over a link. -/
def target
    (client : Client)
    (link : Link) : Target where
  reply := client.reply link
  words := client.complaint? link

end Client

end AccountMigration
