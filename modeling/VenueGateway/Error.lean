namespace VenueGateway

inductive ErrorKind where
  | network
  | api
  | rateLimit
  | authentication
  | validation
  | system
  | unknown
deriving DecidableEq, Repr

namespace ErrorKind

def all : List ErrorKind :=
  [.network, .api, .rateLimit, .authentication, .validation, .system, .unknown]

def name : ErrorKind → String
  | .network => "NETWORK_ERROR"
  | .api => "API_ERROR"
  | .rateLimit => "RATE_LIMIT_ERROR"
  | .authentication => "AUTHENTICATION_ERROR"
  | .validation => "VALIDATION_ERROR"
  | .system => "SYSTEM_ERROR"
  | .unknown => "UNKNOWN_ERROR"

def ofName? (s : String) : Option ErrorKind := all.find? (·.name == s)

def isRetryable : ErrorKind → Bool
  | .network | .rateLimit => true
  | _ => false

/-- What an HTTP status says about a failed call. -/
def ofStatus (status : Nat) : ErrorKind :=
  if status = 429 ∨ status = 418 then .rateLimit
  else if status = 401 ∨ status = 403 then .authentication
  else if status = 408 ∨ (500 ≤ status ∧ status ≤ 599) then .network
  else if 400 ≤ status ∧ status ≤ 499 then .api
  else .unknown

end ErrorKind

/-- A failure of the gateway: a kind, which decides whether a retry makes sense, a text, and
context. -/
structure GatewayError where
  kind : ErrorKind
  message : String
  context : List (String × String) := []
deriving DecidableEq, Repr

namespace GatewayError

def withContext (e : GatewayError) (key value : String) : GatewayError :=
  { e with context := e.context ++ [(key, value)] }

def contextValue? (e : GatewayError) (key : String) : Option String :=
  (e.context.find? (·.1 == key)).map (·.2)

def isRetryable (e : GatewayError) : Bool := e.kind.isRetryable

/-- The kind in brackets before the message. -/
def text (e : GatewayError) : String := "[" ++ e.kind.name ++ "] " ++ e.message

end GatewayError

end VenueGateway
