import VenueGateway.Order.State
import VenueGateway.Text.Integer
import VenueGateway.Venue

namespace VenueGateway

inductive BreakerState where
  | closed
  | «open»
  | halfOpen
deriving DecidableEq, Repr

namespace BreakerState

def name : BreakerState → String
  | .closed => "CLOSED"
  | .open => "OPEN"
  | .halfOpen => "HALF_OPEN"

def gaugeValue : BreakerState → Int
  | .closed => 0
  | .open => 1
  | .halfOpen => 2

end BreakerState

inductive Direction where
  | «in»
  | out
deriving DecidableEq, Repr

def Direction.name : Direction → String
  | .in => "in"
  | .out => "out"

/-- What the gateway measures; each observation moves some series. -/
inductive Observation where
  | sessionState (venue channel : String) (code : Int)
  | reconnectAttempt (venue channel : String)
  | frame (venue channel : String) (direction : Direction) (bytes : Nat)
  | refresh (venue : String) (success : Bool)
  | malformed (venue : String)
  | decoded (venue : String)
  | orderEvent (venue kind : String)
  | ignoredTransition (venue state kind : String)
  | orderRequest (venue operation status : String)
  | openOrders (venue : String) (count : Nat)
  | reconciliation (venue : String) (mismatches : Nat)
  | breakerTransition (service : String) (state : BreakerState)
  | breakerRejection (service : String)
  | rateLimited (service : String)
  | retried (service : String)
  | deadLetter (service : String)
deriving DecidableEq, Repr

/-- A counter grows, a gauge is set, a histogram counts its observations. -/
inductive Sample where
  | counter (amount : Nat)
  | gauge (value : Int)
  | histogram
deriving DecidableEq, Repr

structure Series where
  name : String
  labels : List (String × String)
deriving DecidableEq, Repr

namespace Observation

def samples : Observation → List (Series × Sample)
  | sessionState v c code => [(⟨"session_state", [("venue", v), ("channel", c)]⟩, .gauge code)]
  | reconnectAttempt v c =>
    [(⟨"session_reconnect_attempts_total", [("venue", v), ("channel", c)]⟩, .counter 1)]
  | frame v c d bytes =>
    [(⟨"session_frames_total", [("venue", v), ("channel", c), ("direction", d.name)]⟩, .counter 1),
      (⟨"session_bytes_total", [("venue", v), ("direction", d.name)]⟩, .counter bytes)]
  | refresh v success =>
    [(⟨"session_refresh_total",
        [("venue", v), ("outcome", if success then "success" else "failure")]⟩, .counter 1)]
  | malformed v => [(⟨"malformed_messages_total", [("venue", v)]⟩, .counter 1)]
  | decoded v => [(⟨"decode_latency_seconds", [("venue", v)]⟩, .histogram)]
  | orderEvent v kind => [(⟨"order_events_total", [("venue", v), ("kind", kind)]⟩, .counter 1)]
  | ignoredTransition v state kind =>
    [(⟨"order_ignored_transitions_total",
        [("venue", v), ("state", state), ("kind", kind)]⟩, .counter 1)]
  | orderRequest v operation status =>
    [(⟨"order_requests_total",
        [("venue", v), ("operation", operation), ("status", status)]⟩, .counter 1),
      (⟨"order_request_latency_seconds", [("venue", v), ("operation", operation)]⟩, .histogram)]
  | openOrders v count => [(⟨"open_orders", [("venue", v)]⟩, .gauge count)]
  | reconciliation v mismatches =>
    [(⟨"reconciliation_runs_total", [("venue", v)]⟩, .counter 1),
      (⟨"reconciliation_mismatches_total", [("venue", v)]⟩, .counter mismatches)]
  | breakerTransition s state =>
    [(⟨"circuit_breaker_state", [("service", s)]⟩, .gauge state.gaugeValue),
      (⟨"circuit_breaker_transitions_total", [("service", s), ("to", state.name)]⟩, .counter 1)]
  | breakerRejection s => [(⟨"circuit_breaker_rejected_total", [("service", s)]⟩, .counter 1)]
  | rateLimited s => [(⟨"rate_limit_rejected_total", [("service", s)]⟩, .counter 1)]
  | retried s => [(⟨"retry_attempts_total", [("service", s)]⟩, .counter 1)]
  | deadLetter s => [(⟨"dead_letters_total", [("service", s)]⟩, .counter 1)]

end Observation

namespace Series

/-- The kind, the name, and the labels in their own order. -/
def text (s : Series) (sample : Sample) : String :=
  let kind :=
    match sample with
    | .counter _ => "counter"
    | .gauge _ => "gauge"
    | .histogram => "histogram"
  kind ++ " " ++ s.name ++ "\x7b" ++
    String.intercalate "," (s.labels.map fun (k, v) => k ++ "=" ++ v) ++ "\x7d"

end Series

namespace Metrics

def apply (sample : Sample) (value : Int) : Int :=
  match sample with
  | .counter n => value + n
  | .gauge v => v
  | .histogram => value + 1

/-- Totals are kept sorted by the text of their series. -/
def record (key : String) (sample : Sample) : List (String × Int) → List (String × Int)
  | [] => [(key, apply sample 0)]
  | (k, v) :: rest =>
    if key < k then (key, apply sample 0) :: (k, v) :: rest
    else if key = k then (k, apply sample v) :: rest
    else (k, v) :: record key sample rest

def observe (totals : List (String × Int)) (o : Observation) : List (String × Int) :=
  o.samples.foldl (fun t (series, sample) => record (series.text sample) sample t) totals

def ofObservations (os : List Observation) : List (String × Int) := os.foldl observe []

end Metrics

end VenueGateway
