import VenueGateway.Dialect.Login
import VenueGateway.Rest.Exchange

namespace VenueGateway

namespace Http

def isAbsolute (path : String) : Bool :=
  path.startsWith "http://" || path.startsWith "https://"

/-- Where a call goes: a path is put behind the base, a query behind what is there. -/
def urlFor (base path query : String) : String :=
  let url := if isAbsolute path then path else base ++ path
  if query.isEmpty then url
  else url ++ (if url.toList.contains '?' then "&" else "?") ++ query

/-- What follows the scheme and its two slashes. -/
def afterScheme : List Char → List Char
  | ':' :: '/' :: '/' :: rest => rest
  | _ :: rest => afterScheme rest
  | [] => []

def isAuthority (c : Char) : Bool := c != '/' && c != '?'

/-- Path and query of a URL; the path is never empty. -/
def target (url : String) : String :=
  let rest := (afterScheme url.toList).dropWhile isAuthority
  String.ofList (if rest.head? = some '/' then rest else '/' :: rest)

/-- Scheme and authority of a URL. -/
def origin (url : String) : String :=
  let rest := afterScheme url.toList
  let kept := url.length - (rest.dropWhile isAuthority).length
  String.ofList (url.toList.take kept)

/-- The value of a cookie in a header that may set several things. -/
def cookie? (name header : String) : Option String :=
  (Text.splitAll ';' header.toList).findSome? fun part =>
    match Text.splitOnce '=' (Text.trimChars part) with
    | some (key, value) =>
      if key = name.toList && !value.isEmpty then some (String.ofList value) else none
    | none => none

end Http

structure RestClient where
  dialect : Dialect
  base : String
  credentials : Credentials
  listenKey : Option String := none
deriving DecidableEq

/-- The clock and the token of a call. -/
structure CallStamp where
  timestampMs : Int
  nonce : String

/-- A call: what was sent, what came of it, and the client after it. -/
structure RestCall (β : Type) where
  sent : List HttpRequest
  result : Except GatewayError β
  client : RestClient

namespace RestClient

def ofBase (dialect : Dialect) (base : String) (credentials : Credentials) : RestClient :=
  { dialect, credentials, base := String.ofList (Text.trimEnd (· == '/') base.toList) }

def prepare (c : RestClient) (q : RestQuery) (stamp : CallStamp) :
    Except GatewayError HttpRequest := do
  let signed ← c.dialect.sign c.credentials ⟨q, q.body.map Json.text, stamp.timestampMs, stamp.nonce⟩
  let typed := if signed.body.isSome then [("content-type", "application/json")] else []
  .ok ⟨q.method, Http.urlFor c.base q.path signed.query, signed.headers ++ typed, signed.body⟩

/-- The venue's own words about a failure. -/
def errorText? (body : String) : Option String := do
  let j ← Json.read body
  let message ← (j.field? "msg").or ((j.field? "message").or (j.path? ["error", "message"]))
  message.string?

def statusError (c : RestClient) (q : RestQuery) (r : HttpResponse) : GatewayError :=
  let kind :=
    match ErrorKind.ofStatus r.status with
    | .rateLimit => .rateLimit
    | .authentication => .authentication
    | .network => .network
    | _ => .api
  let words := (errorText? r.body).getD ((Http.reason? r.status).getD "request failed")
  ⟨kind, "HTTP " ++ Text.ofNat r.status ++ ": " ++ words,
    [("status", Text.ofNat r.status), ("venue", c.dialect.venue.name), ("path", q.path)]⟩

/-- What an answer says; a blank body says nothing. -/
def read (c : RestClient) (q : RestQuery) (r : HttpResponse) : Except GatewayError Json :=
  if !Http.isSuccess r.status then .error (c.statusError q r)
  else if Text.isAllBlank r.body then .ok .null
  else
    match Json.read r.body with
    | some j => .ok j
    | none => .error ⟨.api, "invalid JSON response", []⟩

/-- Sends a query; `answer` is what the servers do with requests. -/
def send (c : RestClient) (q : RestQuery) (stamp : CallStamp) (answer : HttpRequest → HttpReply) :
    RestCall (List (String × String) × Json) :=
  match c.prepare q stamp with
  | .error e => ⟨[], .error e, c⟩
  | .ok request =>
    let e := Http.exchange answer request
    ⟨e.sent, e.result.bind fun r => (c.read q r).map fun j => (r.headers, j), c⟩

def request (c : RestClient) (q : RestQuery) (stamp : CallStamp)
    (answer : HttpRequest → HttpReply) : RestCall Json :=
  let call := c.send q stamp answer
  ⟨call.sent, call.result.map (·.2), c⟩

def listenKey? (j : Json) : Option String :=
  ((j.field? "listenKey").bind Json.string?).filter (!·.isEmpty)

/-- Opens a user data stream where the venue has one, and keeps its key. -/
def createListenKey (c : RestClient) (stamp : CallStamp)
    (answer : HttpRequest → HttpReply) : RestCall (Option String) :=
  match c.dialect.userStreamQuery? with
  | none => ⟨[], .ok none, c⟩
  | some q =>
    let call := c.send q stamp answer
    match call.result with
    | .error e => ⟨call.sent, .error e, c⟩
    | .ok (_, j) =>
      match listenKey? j with
      | none => ⟨call.sent, .error ⟨.api, "listen key missing from response", []⟩, c⟩
      | some key => ⟨call.sent, .ok (some key), { c with listenKey := some key }⟩

def sessionCookieName : String := "gravity"

def accountHeader : String := "x-grvt-account-id"

/-- The credentials with the session cookie of an answer, and its account if it names one. -/
def absorb? (credentials : Credentials) (headers : List (String × String)) : Option Credentials :=
  let values (name : String) := Http.headersNamed name headers
  let account := (values accountHeader).head?.filter Http.isPlain
  (((values "set-cookie").filter Http.isPlain).findSome? (Http.cookie? sessionCookieName)).map
    fun cookie =>
      match credentials.withSessionCookie cookie, account with
      | .cookie session _ key, some account => .cookie session account key
      | credentials, _ => credentials

/-- Renews what the session runs on. -/
def refresh (c : RestClient) (stamp : CallStamp) (answer : HttpRequest → HttpReply) :
    RestCall Unit :=
  match c.dialect.refreshQuery? c.credentials with
  | none => ⟨[], .ok (), c⟩
  | some q =>
    let call := c.send q stamp answer
    match call.result, c.dialect with
    | .error e, _ => ⟨call.sent, .error e, c⟩
    | .ok (headers, _), .grvt .. =>
      match absorb? c.credentials headers with
      | some credentials => ⟨call.sent, .ok (), { c with credentials }⟩
      | none =>
        ⟨call.sent, .error ⟨.authentication, "login response carried no session cookie", []⟩, c⟩
    | .ok _, _ => ⟨call.sent, .ok (), c⟩

end RestClient

end VenueGateway
