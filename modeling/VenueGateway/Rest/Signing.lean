import VenueGateway.Digest.Hmac
import VenueGateway.Rest.Query
import VenueGateway.Text.Integer
import VenueGateway.Text.Percent

namespace VenueGateway

/-- A call with the clock and the token that its signature covers. -/
structure SigningInput where
  query : RestQuery
  body : Option String
  timestampMs : Int
  nonce : String

structure SignedRequest where
  headers : List (String × String)
  query : String
  body : Option String
deriving DecidableEq, Repr

/-- The time comes last among the parameters, and the signature of all before it after that. -/
def signQuery (secret : String) (params : List (String × String)) (timestampMs : Int) : String :=
  let encoded := Text.encodeQuery params
  let signed := (if encoded.isEmpty then "" else encoded ++ "&") ++ "timestamp=" ++
    Text.ofInt timestampMs
  signed ++ "&signature=" ++ Digest.hmacSha256Hex secret signed

/-- The lines of a request that its signature covers, each of them ended. -/
def requestDigest (timestampMs : Int) (nonce : String) (method : HttpMethod)
    (target body : String) : String :=
  Text.ofInt timestampMs ++ "\n" ++ nonce ++ "\n" ++ method.name ++ "\n" ++ target ++ "\n" ++
    body ++ "\n"

/-- The path, and the query behind a question mark if there is one. -/
def signedTarget (path query : String) : String :=
  if query.isEmpty then path else path ++ "?" ++ query

def authorization (key secret : String) (r : SigningInput) (target : String) : String :=
  let digest := requestDigest r.timestampMs r.nonce r.query.method target (r.body.getD "")
  "deri-hmac-sha256 id=" ++ key ++ ",ts=" ++ Text.ofInt r.timestampMs ++ ",sig=" ++
    Digest.hmacSha256Hex secret digest ++ ",nonce=" ++ r.nonce

end VenueGateway
