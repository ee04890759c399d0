import VenueGateway.Error
import VenueGateway.Json.Basic
import VenueGateway.Metrics

namespace VenueGateway

structure DeadLetter where
  sequence : Nat
  service : String
  operation : String
  payload : Option String
  errorKind : ErrorKind
  errorMessage : String
  context : List (String × String)
  attempts : Nat
  recordedAt : Int
deriving DecidableEq, Repr

/-- Calls that failed for good, the most recent ones, each with its place in the sequence of all. -/
structure DeadLetters where
  capacity : Nat
  entries : List DeadLetter := []
  nextSequence : Nat := 0
  evicted : Nat := 0
deriving DecidableEq, Repr

namespace DeadLetters

/-- There is always room for one. -/
def ofCapacity (n : Nat) : DeadLetters := { capacity := max n 1 }

def push (q : DeadLetters) (service operation : String) (payload : Option String)
    (e : GatewayError) (attempts : Nat) (now : Int) : Nat × DeadLetters × List Observation :=
  let letter : DeadLetter :=
    ⟨q.nextSequence, service, operation, payload, e.kind, e.message, e.context, attempts, now⟩
  let isFull := q.capacity ≤ q.entries.length
  (q.nextSequence,
    { q with
      entries := (if isFull then q.entries.tail else q.entries) ++ [letter]
      nextSequence := q.nextSequence + 1
      evicted := if isFull then q.evicted + 1 else q.evicted },
    [.deadLetter service])

def drain (q : DeadLetters) : List DeadLetter × DeadLetters :=
  (q.entries, { q with entries := [] })

end DeadLetters

end VenueGateway
