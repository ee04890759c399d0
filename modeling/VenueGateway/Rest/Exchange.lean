import VenueGateway.Error
import VenueGateway.Rest.Query
import VenueGateway.Rest.Response
import VenueGateway.Rest.Url

namespace VenueGateway

structure HttpRequest where
  method : HttpMethod
  url : String
  headers : List (String × String)
  body : Option String
deriving DecidableEq, Repr

/-- What comes back for a request: nobody may be there, else a text until the connection closes. -/
inductive HttpReply where
  | unreachable
  | text (s : String)
deriving DecidableEq, Repr

/-- The requests that were sent, in order, and the response at the end. -/
structure HttpExchange where
  sent : List HttpRequest
  result : Except GatewayError HttpResponse

namespace HttpExchange

def failed (message : String) (sent : List HttpRequest) : HttpExchange :=
  ⟨sent, .error ⟨.network, message, []⟩⟩

def unsendable : HttpExchange := failed "builder error" []

def behind (r : HttpRequest) (e : HttpExchange) : HttpExchange := { e with sent := r :: e.sent }

end HttpExchange

namespace HttpRequest

def payloadHeaders : List String := ["content-type", "content-length", "content-encoding", "transfer-encoding"]

def withoutPayload (r : HttpRequest) : HttpRequest :=
  { r with
    method := .get, body := none
    headers := r.headers.filter fun (k, _) => !payloadHeaders.any (Text.sameLetters k ·) }

/-- The request again after an answer with this status, if that is a redirect. -/
def redirected? (r : HttpRequest) (status : Nat) : Option HttpRequest :=
  if status = 301 ∨ status = 302 then some (if r.method = .post then r.withoutPayload else r)
  else if status = 303 then some r.withoutPayload
  else if status = 307 ∨ status = 308 then some r
  else none

end HttpRequest

namespace Url

/-- Whether a URL without a host reads like a host and a port, as far as its characters go. -/
def isLikeAuthority (cs : List Char) : Bool :=
  let afterUser := (Text.splitLast '@' cs).elim cs (·.2)
  let marks := ['-', '.', '_', '~', '!', '$', '&', '\x27', '(', ')', '*', '+', ',', ';', '=', ':', '@']
  cs.all (fun c => c.isAlphanum || marks.contains c || c == '%') && !afterUser.isEmpty &&
    !afterUser.contains '%' && afterUser.count ':' ≤ 1

/-- Whether a redirect to here counts as one: its place is a URL that a request line could name. -/
def isPlace (u : Url) : Bool :=
  match u.host with
  | some host => !host.isEmpty
  | none => isLikeAuthority u.text.toList

/-- The place of a redirect. -/
def place (u : Url) : Url :=
  let u := u.withoutFragment
  if u.host.isSome ∧ u.path.isEmpty then { u with path := "/" } else u

end Url

namespace Http

/-- How many redirects are followed. -/
def maxRedirects : Nat := 10

/-- Where an answer redirects to, seen from the URL that it came from. -/
def redirectUrl? (here : Url) (r : ReceivedResponse) : Option Url :=
  ((headersNamed "location" r.headers).head?.bind (Url.read (some here))).filter Url.isPlace

def sendError (start : Url) : String := "error sending request for url (" ++ start.text ++ ")"

def finish (r : ReceivedResponse) : Except GatewayError HttpResponse :=
  match r.body with
  | some body => .ok ⟨r.status, r.headers, body⟩
  | none => .error ⟨.api, "error decoding response body", []⟩

/-- Follows a request from `start`, which is now at `here`, through so many more redirects. -/
def follow (answer : HttpRequest → HttpReply) (start : Url) :
    Nat → Url → HttpRequest → HttpExchange
  | left, here, request =>
    let request := { request with url := here.text }
    match answer request with
    | .unreachable => .failed (sendError start) []
    | .text s =>
      match ReceivedResponse.read s with
      | none => .failed (sendError start) [request]
      | some r =>
        match request.redirected? r.status, redirectUrl? here r with
        | some next, some url =>
          match left with
          | 0 =>
            .failed ("error following redirect for url (" ++ here.text ++ ")") [request]
          | left + 1 =>
            let url := url.place
            if url.scheme = "http" ∨ url.scheme = "https" then
              .behind request (follow answer start left url next)
            else .failed ("builder error for url (" ++ url.text ++ ")") [request]
        | _, _ => ⟨[request], finish r⟩

/-- Whether the headers of a request can be written. -/
def areSendable (headers : List (String × String)) : Bool :=
  headers.all fun (_, v) => v.toList.all isHeaderText

/-- Sends a request, if its URL and its headers can be written. -/
def exchange (answer : HttpRequest → HttpReply) (r : HttpRequest) : HttpExchange :=
  match Url.read none r.url with
  | none => .unsendable
  | some url =>
    if areSendable r.headers then
      follow answer url.withoutUser maxRedirects url.withoutUser.withoutFragment r
    else .unsendable

end Http

end VenueGateway
