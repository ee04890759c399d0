import VenueGateway.Duration
import VenueGateway.WebSocket.Codec

namespace VenueGateway

structure SessionConfig (α : Type) where
  pingInterval : Duration
  pongTimeout : Duration
  connectTimeout : Duration
  /-- Failed attempts in a row before the session gives up. -/
  attempts : Nat
  delay : Duration
  maxDelay : Duration
  multiplier : α
  jitter : Bool
  refreshInterval : Option Duration
  maxFrame : Nat
  queueCapacity : Nat
deriving Repr

def SessionConfig.standard : SessionConfig Float where
  pingInterval := .ofSeconds 20
  pongTimeout := .ofSeconds 10
  connectTimeout := .ofSeconds 10
  attempts := 10
  delay := .ofSeconds 1
  maxDelay := .ofSeconds 30
  multiplier := 2
  jitter := true
  refreshInterval := none
  maxFrame := defaultMaxFrame
  queueCapacity := 256

end VenueGateway
