import ClusterKeeper.Config
import ClusterKeeper.Database.Basic
import ClusterKeeper.Http.Target
import ClusterKeeper.Json.Parser
import ClusterKeeper.Text.Base64
import ClusterKeeper.Url.Basic

/-!
# The remote API

Three calls: fetch a database by identifier, create one, delete one. A call is a
request before it is sent and an answer, or a failure, made of what came back.

* `Session.start`: a session accepts only addresses of the web.
* `Session.request`: the request of a call.
* `DatabaseCall.interpret`: the answer in an outcome.
-/

namespace ClusterKeeper

/-- A call of the remote API. -/
inductive DatabaseCall where
  | get (id : String)
  | create (request : CreateRequest)
  | delete (id : String)
  deriving DecidableEq, Repr

/-- What a successful call gives. A request for a database may be accepted without
one in the answer. -/
@[reducible] def DatabaseCall.Answer : DatabaseCall → Type
  | .get _ => Database
  | .create _ => Option Database
  | .delete _ => Unit

/-- A request of the remote API. -/
structure DatabaseRequest where
  method : Http.Method
  url : Url
  /-- Who asks, in the order in which it is sent. -/
  authorization : List String
  userAgent : String := "digitalocean-database-operator/0.1.0"
  accept : String := "*/*"
  contentType : Option String := none
  body : Option Json := none
  deriving Repr

/-- Where the remote API is, and the token that opens it. -/
structure Session where
  base : String
  token : String
  deriving DecidableEq, Repr, Inhabited

namespace Session

/-- A session at an address, if it is one of the web. -/
def start (base token : String) : Except CallFailure Session :=
  if Config.isWebUrl base then .ok ⟨base, token⟩
  else .error (.invalidUrl s!"URL must start with http:// or https://, got: {base}")

/-- The address of a path of the API: slashes at the end of the base and one at the
start of the path do not count. -/
def url (s : Session) (path : String) : String :=
  let base := Text.dropEndWhile (· == '/') s.base.toList
  let path :=
    match path.toList with
    | '/' :: rest => rest
    | cs => cs
  String.ofList (base ++ "/v2/".toList ++ path)

/-- The path of a database. -/
def databasePath (id : String) : String := s!"databases/{id}"

/-- Whether a text may be the value of a header: no control characters but tabs. -/
def isHeaderText (s : String) : Bool :=
  s.toList.all fun c => c == '\t' || (32 ≤ c.toNat && c.toNat ≠ 127)

/-- The token as a request shows it. -/
def bearer (s : Session) : String := s!"Bearer {s.token}"

/-- A user and a password as a request shows them. -/
def basic (user : String) (password : Option String) : String :=
  let password := password.getD ""
  "Basic " ++ String.ofList (Base64.encode (Utf8.encode s!"{user}:{password}"))

/-- Where a request goes, and who asks: the user that the address names before the
token. -/
def addressed (s : Session) (url : Url) : Url × List String :=
  match url.login? with
  | some (user, password) => (url.withoutUser, [basic user password, s.bearer])
  | none => (url, [s.bearer])

/-- The request of a method at a path, if address and token allow one. -/
def requestAt (s : Session) (method : Http.Method) (path : String) (body : Option Json) :
    Except CallFailure DatabaseRequest :=
  match Url.ofText? (s.url path) with
  | some url =>
    if isHeaderText s.bearer then
      let (url, authorization) := s.addressed url
      if Http.Target.isAddress url.text.toList then
        .ok { method, url, authorization, body
              contentType := body.map fun _ => "application/json" }
      else .error (.http (.address url.text))
    else .error (.http .builder)
  | none => .error (.http .builder)

/-- The request of a call. -/
def request (s : Session) : DatabaseCall → Except CallFailure DatabaseRequest
  | .get id => s.requestAt .get (databasePath id) none
  | .create request => s.requestAt .post "databases" (some request.toJson)
  | .delete id => s.requestAt .delete (databasePath id) none

end Session

namespace DatabaseCall

/-- The database in an envelope, which may lack one. -/
def envelope? (j : Json) : Option (Option Database) := do
  let r ← j.record? ["database"]
  (r "database").optionalDefault Database.ofJson?

/-- The message in an error body, which is empty by default. -/
def errorMessage? (j : Json) : Option String := do
  let r ← j.record? ["message"]
  (r "message").default "" Json.text?

/-- What a response with an error status says: its message, or else its whole body. -/
def errorText (r : Http.Response) : String :=
  -- a body that broke off says nothing
  let text := if r.complete then Utf8.decodeLossy r.body else ""
  ((Json.ofText? text).bind errorMessage?).getD text

/-- A response with a status of success, or what an error response says. -/
def checked (r : Http.Response) : Except CallFailure Http.Response :=
  if Http.isSuccess r.status then .ok r else .error (.api r.status (errorText r))

/-- The envelope in the body of a response. -/
def opened (r : Http.Response) : Except CallFailure (Option Database) :=
  match if r.complete then (Json.ofBytes? r.body).bind envelope? else none with
  | some database? => .ok database?
  | none => .error (.http .decoding)

/-- The response that came, if one did. -/
def arrived (url : Url) : Http.Outcome → Except CallFailure Http.Response
  | .response r => .ok r
  | .noResponse => .error (.http (.sending url.text))

/-- The answer in the outcome of a call's request to an address. -/
def interpret (url : Url) (outcome : Http.Outcome) :
    (call : DatabaseCall) → Except CallFailure call.Answer
  | .get id => do
    match ← opened (← checked (← arrived url outcome)) with
    | some database => .ok database
    | none => .error (.emptyBody s!"database {id} missing from response")
  | .create _ => do opened (← checked (← arrived url outcome))
  | .delete _ => do
    let _ ← checked (← arrived url outcome)
    .ok ()

end DatabaseCall

end ClusterKeeper
