import VenueGateway.Error
import VenueGateway.Record.Basic

namespace VenueGateway

inductive ConnectionState where
  | disconnected
  | connecting
  | connected
  | disconnecting
  | error
deriving DecidableEq, Repr

namespace ConnectionState

def all : List ConnectionState := [.disconnected, .connecting, .connected, .disconnecting, .error]

def name : ConnectionState → String
  | .disconnected => "disconnected"
  | .connecting => "connecting"
  | .connected => "connected"
  | .disconnecting => "disconnecting"
  | .error => "error"

def code : ConnectionState → Nat
  | .disconnected => 0
  | .connecting => 1
  | .connected => 2
  | .disconnecting => 3
  | .error => 4

def isActive : ConnectionState → Bool
  | .connecting | .connected => true
  | .disconnected | .disconnecting | .error => false

end ConnectionState

inductive SessionNotice where
  | connected
  | connectFailed (e : GatewayError)
  | reconnected (attempts : Nat)
  | disconnected (reason : String)
  | gaveUp (attempts : Nat)
  | record (r : Record Float)
deriving Repr

structure SessionEvent where
  venue : Venue
  channel : Channel
  notice : SessionNotice
deriving Repr

end VenueGateway
