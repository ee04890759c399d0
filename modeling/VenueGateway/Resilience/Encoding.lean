import VenueGateway.Error.Encoding
import VenueGateway.Resilience.Registry

namespace VenueGateway

open Json

namespace BreakerConfig

def toJson (c : BreakerConfig) : Json :=
  .object [("failure_threshold", .ofNat c.threshold), ("retry_timeout", c.retryTimeout.toJson)]

def ofJson (j : Json) : BreakerConfig :=
  match j with
  | .string "order_entry" => .orderEntry
  | .object _ =>
    let d : BreakerConfig := {}
    ⟨j.natOr "failure_threshold" d.threshold,
      ((j.get "retry_timeout_ms").unsigned?).elim d.retryTimeout .ofMillis⟩
  | _ => {}

end BreakerConfig

namespace RetryPolicy

def ofJson (j : Json) : RetryPolicy Float :=
  match j with
  | .string "no_retry" => .noRetry
  | .object _ =>
    ⟨j.natOr "max_retries" 3, .ofMicros (j.natOr "initial_us" 100000),
      .ofMicros (j.natOr "max_us" 5000000), j.floatOr "multiplier" 2, j.floatOr "jitter" 0⟩
  | _ => .standard

end RetryPolicy

def ServiceLimits.ofJson (j : Json) : ServiceLimits :=
  ⟨.ofJson (j.get "circuit_breaker"), j.natOr "rate_limit_per_second" 10⟩

def ResilienceConfig.ofJson (j : Json) : ResilienceConfig Float :=
  ⟨.ofJson (j.get "circuit_breaker"), .ofJson (j.get "retry"), j.natOr "rate_limit_per_second" 10,
    j.natOr "dead_letter_capacity" 1000⟩

def Breaker.toJson (b : Breaker) : Json :=
  .object [("name", b.name), ("state", b.state.name), ("failure_count", .ofNat b.failures),
    ("total_calls", .ofNat b.totalCalls), ("total_failures", .ofNat b.totalFailures),
    ("rejected_calls", .ofNat b.rejectedCalls), ("state_transitions", .ofNat b.transitions)]

def DeadLetter.toJson (l : DeadLetter) : Json :=
  .object [("sequence", .ofNat l.sequence), ("service", l.service), ("operation", l.operation),
    ("payload", ofText? l.payload), ("error_kind", l.errorKind.name),
    ("error_message", l.errorMessage), ("context", ofPairs l.context),
    ("attempts", .ofNat l.attempts), ("recorded_at_us", .ofInt l.recordedAt)]

def DeadLetters.toJson (q : DeadLetters) : Json := .array (q.entries.map DeadLetter.toJson)

def Registry.breakersToJson (r : Registry α) : Json :=
  .array (r.breakers.map fun (_, b) => b.toJson)

/-- The totals of what was measured, as pairs of a series and its value. -/
def Metrics.toJson (os : List Observation) : Json :=
  .array ((Metrics.ofObservations os).map fun (k, v) => .array [.string k, .ofInt v])

end VenueGateway
