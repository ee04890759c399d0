import VenueGateway.Session.Basic
import VenueGateway.Session.Reconnect

namespace VenueGateway

/-- The worker of a session connects, serves the connection until a fault, and connects again after
a delay, until it has failed too often in a row. A first attempt that fails is its only one. -/
structure Worker where
  policy : ReconnectPolicy Float
  hasConnected : Bool := false
deriving Repr

/-- What the worker does next. -/
inductive WorkerNext where
  | wait (millis : Nat)
  | finish
deriving DecidableEq, Repr

namespace Worker

def ofConfig (c : SessionConfig Float) : Worker := { policy := .ofConfig c }

end Worker

namespace Session

/-- Before every attempt to connect. -/
def beginAttempt (s : Session) : Session × List SessionOutput := s.enter .connecting

/-- The connection is up; the attempts that it took are told, and forgotten. -/
def established (s : Session) (w : Worker) : Session × Worker × List SessionOutput :=
  let notice := if w.hasConnected then .reconnected w.policy.attempt else .connected
  let (s, out) := s.enter .connected
  (s, ⟨w.policy.reset, true⟩, out ++ [.notify notice])

/-- The delay before the next attempt; after the last one the session gives up. -/
def backOff (s : Session) (w : Worker) (noise : Float) :
    WorkerNext × Session × Worker × List SessionOutput :=
  match w.policy.next noise with
  | (some millis, policy) =>
    (.wait millis, s, { w with policy },
      [.observe (.reconnectAttempt s.venue.name s.channel.name)])
  | (none, policy) =>
    let (s, out) := s.enter .error
    (.finish, s, { w with policy }, out ++ [.notify (.gaveUp policy.attempt)])

/-- An attempt failed. -/
def attemptFailed (s : Session) (w : Worker) (noise : Float) (e : GatewayError) :
    WorkerNext × Session × Worker × List SessionOutput :=
  let (s, out) := s.enter .error
  let out := out ++ [.notify (.connectFailed e)]
  if w.hasConnected then
    let (next, s, w, more) := s.backOff w noise
    (next, s, w, out ++ more)
  else (.finish, s, w, out)

/-- The connection broke. -/
def faulted (s : Session) (w : Worker) (noise : Float) (reason : String) :
    WorkerNext × Session × Worker × List SessionOutput :=
  let (s, out) := s.closeQueue.enter .connecting
  let (next, s, w, more) := s.backOff w noise
  (next, s, w, out ++ .notify (.disconnected reason) :: more)

def connectError (s : Session) (e : SessionError) : GatewayError :=
  e.toGatewayError.withContext "venue" s.venue.name

end Session

end VenueGateway
