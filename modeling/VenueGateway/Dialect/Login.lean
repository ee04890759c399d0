import VenueGateway.Credentials
import VenueGateway.Dialect.Subscription
import VenueGateway.Error
import VenueGateway.Json.Reader
import VenueGateway.Rest.Signing
import VenueGateway.Venue

namespace VenueGateway.Dialect

/-- The headers that a cookie session sends; none without a cookie. -/
def cookieHeaders (c : Credentials) : List (String × String) :=
  match c with
  | .cookie session account _ =>
    if session.isEmpty then []
    else [("Cookie", "gravity=" ++ session), ("X-Grvt-Account-Id", account)]
  | _ => []

/-- Only one venue signs in with headers, and only on its private side. -/
def handshakeHeaders (d : Dialect) (c : Credentials) (channel : Channel) : List (String × String) :=
  match d with
  | .grvt .. => if channel.needsLogin then cookieHeaders c else []
  | _ => []

/-- The headers and the query that a call is sent with. -/
def sign (d : Dialect) (c : Credentials) (r : SigningInput) : Except GatewayError SignedRequest :=
  let query := Text.encodeQuery r.query.params
  match d with
  | .binance receiveWindow =>
    match c with
    | .apiKey key secret =>
      let params := r.query.params ++ [("recvWindow", Text.ofNat receiveWindow)]
      .ok ⟨[("X-MBX-APIKEY", key)],
        if r.query.signed then signQuery secret params r.timestampMs else query, r.body⟩
    | _ => .error ⟨.authentication, "binance requires api key credentials", []⟩
  | .deribit =>
    if !r.query.signed then .ok ⟨[], query, r.body⟩
    else
      match c with
      | .apiKey key secret =>
        .ok ⟨[("Authorization", authorization key secret r (signedTarget r.query.path query))],
          query, r.body⟩
      | _ => .error ⟨.authentication, "deribit requires client credentials", []⟩
  | .grvt .. =>
    if !r.query.signed then .ok ⟨[], query, r.body⟩
    else if (cookieHeaders c).isEmpty then
      .error ⟨.authentication, "grvt requires a session cookie and account id", []⟩
    else .ok ⟨cookieHeaders c, query, r.body⟩

/-- The frame that signs a session in, or in again, where the venue has one. -/
def authFrame? (d : Dialect) (c : Credentials) (id : Nat) : Option String :=
  match d, c with
  | .deribit, .apiKey key secret =>
    some (Deribit.request id "public/auth" (.object [("client_id", key), ("client_secret", secret),
      ("grant_type", "client_credentials")]))
  | _, _ => none

def loginFrame? (d : Dialect) (c : Credentials) (channel : Channel) (id : Nat) : Option String :=
  if channel.needsLogin then d.authFrame? c id else none

def listenKeyPath : String := "/fapi/v1/listenKey"

/-- The call that renews what a session runs on. -/
def refreshQuery? (d : Dialect) (c : Credentials) : Option RestQuery :=
  match d, c with
  | .binance _, _ => some ⟨.put, listenKeyPath, [], none, false⟩
  | .grvt _ _ authUrl, .cookie _ _ (some key) =>
    if key.isEmpty then none
    else some ⟨.post, authUrl, [], some (.object [("api_key", key)]), false⟩
  | _, _ => none

/-- The call that opens a user data stream. -/
def userStreamQuery? : Dialect → Option RestQuery
  | .binance _ => some ⟨.post, listenKeyPath, [], none, false⟩
  | _ => none

def testFrame (id : Nat) : String := Deribit.request id "public/test" (.object [])

/-- The frame that keeps a session alive. -/
def heartbeat? (d : Dialect) (id : Nat) : Option String :=
  match d with
  | .deribit => some (testFrame id)
  | _ => none

/-- A heartbeat that asks for an answer. -/
def isTestRequest (j : Json) : Bool :=
  (j.field? "method").bind Json.string? == some "heartbeat" &&
    (j.path? ["params", "type"]).bind Json.string? == some "test_request"

/-- The answer to a heartbeat; text without the word is not even read as JSON. -/
def heartbeatReply? (d : Dialect) (text : String) : Option String :=
  match d with
  | .deribit =>
    if !Text.occursIn "test_request".toList text.toList then none
    else ((Json.read text).filter isTestRequest).map fun _ => testFrame 0
  | _ => none

end VenueGateway.Dialect
