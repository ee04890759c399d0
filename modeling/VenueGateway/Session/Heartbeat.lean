import VenueGateway.Session.Config

namespace VenueGateway

/-- Since when a ping is without an answer, in nanoseconds. Any inbound frame counts as an answer. -/
structure Heartbeat where
  pingedAt : Option Nat := none
deriving DecidableEq, Repr

namespace Heartbeat

def isWaiting (h : Heartbeat) : Bool := h.pingedAt.isSome

def ping (_ : Heartbeat) (now : Nat) : Heartbeat := ⟨some now⟩

def inbound (_ : Heartbeat) : Heartbeat := ⟨none⟩

/-- How long the ping has been without an answer. -/
def silence (h : Heartbeat) (now : Nat) : Option Duration := h.pingedAt.map fun t => ⟨now - t⟩

end Heartbeat

inductive HeartbeatSignal where
  | ping
  | timeout
deriving DecidableEq, Repr

/-- What watches over a heartbeat; its times are milliseconds. -/
structure HeartbeatMonitor where
  pingInterval : Duration
  pongTimeout : Duration
  nextPing : Nat
deriving DecidableEq, Repr

namespace HeartbeatMonitor

def startingAt (pingInterval pongTimeout : Duration) (start : Nat) : HeartbeatMonitor :=
  ⟨pingInterval, pongTimeout, start + pingInterval.ticks⟩

/-- The milliseconds between checks, short enough for the shorter of the two intervals. -/
def period (m : HeartbeatMonitor) : Nat :=
  max 5 (min m.pingInterval.ticks m.pongTimeout.ticks)

/--
One check, at `now` in milliseconds and `elapsed` in nanoseconds. A ping is due only when none is
without an answer.
-/
def check (m : HeartbeatMonitor) (h : Heartbeat) (now elapsed : Nat) :
    Option HeartbeatSignal × HeartbeatMonitor :=
  if (h.silence elapsed).any fun d => m.pongTimeout.nanos < d.nanos then (some .timeout, m)
  else if m.nextPing ≤ now ∧ !h.isWaiting then
    (some .ping, { m with nextPing := now + m.pingInterval.ticks })
  else (none, m)

end HeartbeatMonitor

end VenueGateway
