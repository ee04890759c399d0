import VenueGateway.Duration
import VenueGateway.Error
import VenueGateway.Venue

namespace VenueGateway

inductive SessionError where
  | missingCredentials (venue : Venue)
  | invalidUrl (url reason : String)
  | handshake (status : Option Nat) (reason : String)
  | tls (message : String)
  | protocol (message : String)
  | io (message : String)
  | timeout (operation : String) (limit : Duration)
  | notConnected
deriving DecidableEq, Repr

namespace SessionError

def message : SessionError → String
  | missingCredentials venue => "missing credentials for " ++ venue.name ++ " private channel"
  | invalidUrl url reason => "invalid url " ++ url ++ ": " ++ reason
  | handshake _ reason => "handshake failed: " ++ reason
  | tls message => "tls error: " ++ message
  | protocol message => "protocol error: " ++ message
  | io message => "io error: " ++ message
  | timeout operation limit => operation ++ " timed out after " ++ limit.text
  | notConnected => "not connected"

def kind : SessionError → ErrorKind
  | missingCredentials _ => .authentication
  | handshake (some 401) _ | handshake (some 403) _ => .authentication
  | invalidUrl .. => .validation
  | handshake .. | tls _ | protocol _ | io _ | timeout .. | notConnected => .network

def toGatewayError (e : SessionError) : GatewayError := ⟨e.kind, e.message, []⟩

end SessionError

end VenueGateway
