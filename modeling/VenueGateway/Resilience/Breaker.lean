import VenueGateway.Duration
import VenueGateway.Error
import VenueGateway.Metrics

namespace VenueGateway

structure BreakerConfig where
  threshold : Nat := 5
  retryTimeout : Duration := .ofSeconds 30
deriving DecidableEq, Repr

def BreakerConfig.orderEntry : BreakerConfig := ⟨3, .ofSeconds 10⟩

/-- A call first acquires the breaker and later reports success or failure; each of these is one
atomic step, so that calls may overlap. Times are in nanoseconds. -/
structure Breaker where
  name : String
  config : BreakerConfig
  state : BreakerState := .closed
  failures : Nat := 0
  lastFailure : Option Nat := none
  totalCalls : Nat := 0
  totalFailures : Nat := 0
  rejectedCalls : Nat := 0
  transitions : Nat := 0
deriving DecidableEq, Repr

namespace Breaker

/-- The step to another state; a step to the same state is none. -/
def moveTo (b : Breaker) (s : BreakerState) : Breaker × List Observation :=
  if b.state = s then (b, [])
  else ({ b with state := s, transitions := b.transitions + 1 }, [.breakerTransition b.name s])

/-- Whether the time to stay away is over. -/
def isRested (b : Breaker) (now : Nat) : Bool :=
  match b.lastFailure with
  | none => true
  | some t => b.config.retryTimeout.nanos ≤ now - t

/-- Whether a call may go out; the first one after the rest is the probe. -/
def acquire (b : Breaker) (now : Nat) : Bool × Breaker × List Observation :=
  match b.state with
  | .closed | .halfOpen => (true, b, [])
  | .open => if b.isRested now then (true, b.moveTo .halfOpen) else (false, b, [])

/-- A refused call. -/
def reject (b : Breaker) : GatewayError × Breaker × List Observation :=
  (⟨.system, "circuit breaker " ++ b.name ++ " is open", [("service", b.name)]⟩,
    { b with rejectedCalls := b.rejectedCalls + 1 }, [.breakerRejection b.name])

def succeed (b : Breaker) : Breaker × List Observation :=
  { b with totalCalls := b.totalCalls + 1, failures := 0 }.moveTo .closed

/-- Failures are counted in a word of 32 bits. -/
def fail (b : Breaker) (now : Nat) : Breaker × List Observation :=
  let b := { b with
    totalCalls := b.totalCalls + 1
    totalFailures := b.totalFailures + 1
    failures := (b.failures + 1) % Text.bound32
    lastFailure := some now }
  if b.state = .halfOpen ∨ b.config.threshold ≤ b.failures then b.moveTo .open else (b, [])

def report (b : Breaker) (now : Nat) : Except GatewayError α → Breaker × List Observation
  | .ok _ => b.succeed
  | .error _ => b.fail now

def forceOpen (b : Breaker) (now : Nat) : Breaker × List Observation :=
  { b with failures := max b.failures b.config.threshold, lastFailure := some now }.moveTo .open

def forceClose (b : Breaker) : Breaker × List Observation :=
  { b with failures := 0 }.moveTo .closed

/-- A call that nothing overlaps: its result, and the state that the call saw if it was made. -/
def execute (b : Breaker) (now : Nat) (outcome : Except GatewayError α) :
    Except GatewayError α × Option BreakerState × Breaker × List Observation :=
  let (allowed, b, seen) := b.acquire now
  if allowed then
    let (b', more) := b.report now outcome
    (outcome, some b.state, b', seen ++ more)
  else
    let (e, b, more) := b.reject
    (.error e, none, b, seen ++ more)

end Breaker

end VenueGateway
