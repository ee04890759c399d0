import VenueGateway.Resilience.Registry

namespace VenueGateway

/-- What a clock shows: nanoseconds since the program began, and microseconds since the epoch. -/
structure Clock where
  elapsed : Nat
  epoch : Int
deriving DecidableEq, Repr

/-- A call guarded by its service's breaker and repeated after transient failures. It is cut into
atomic steps, the start and the end of each attempt; between them the operation runs, and between
attempts the call waits. -/
structure GuardedCall (α : Type) where
  service : String
  operation : String
  payload : Option String
  backoff : Backoff α
  attempts : Nat := 0
deriving Repr

/-- What a guarded call does next. -/
inductive NextStep (β : Type) where
  | invoke
  | wait (millis : Nat)
  | done (result : Except GatewayError β)

namespace Registry

variable {α β : Type} [Factor α]

def begin (r : Registry α) (service operation : String) (payload : Option String) : GuardedCall α :=
  { service, operation, payload, backoff := { policy := r.defaults.retry } }

/-- The call is over; a failure becomes a dead letter. -/
def conclude (r : Registry α) (c : GuardedCall α) (clock : Clock) (result : Except GatewayError β) :
    NextStep β × Registry α × GuardedCall α × List Observation :=
  match result with
  | .ok _ => (.done result, r, c, [])
  | .error e =>
    let (_, q, seen) :=
      r.deadLetters.push c.service c.operation c.payload e c.attempts clock.epoch
    (.done result, { r with deadLetters := q }, c, seen)

/-- The outcome of an attempt: another one after a transient failure, as long as there are any. -/
def settle (r : Registry α) (c : GuardedCall α) (clock : Clock) (noise : α)
    (outcome : Except GatewayError β) :
    NextStep β × Registry α × GuardedCall α × List Observation :=
  match outcome with
  | .ok _ => r.conclude c clock outcome
  | .error e =>
    if e.isRetryable then
      match c.backoff.next noise with
      | (some millis, backoff) => (.wait millis, r, { c with backoff }, [.retried c.service])
      | (none, backoff) =>
        let e := e.withContext "attempts" (Text.ofNat (backoff.attempt + 1))
        r.conclude c clock (.error e : Except GatewayError β)
    else r.conclude c clock outcome

/-- The start of an attempt: the operation is invoked if the breaker lets it through. -/
def startAttempt (r : Registry α) (c : GuardedCall α) (clock : Clock) (noise : α) :
    NextStep β × Registry α × GuardedCall α × List Observation :=
  let c := { c with attempts := c.attempts + 1 }
  let (allowed, b, seen) := (r.breaker c.service).acquire clock.elapsed
  if allowed then (.invoke, r.setBreaker c.service b, c, seen)
  else
    let (e, b, more) := b.reject
    let (next, r, c, last) := (r.setBreaker c.service b).settle c clock noise (.error e)
    (next, r, c, seen ++ more ++ last)

/-- The end of an attempt: the breaker hears of it before anything else happens. -/
def endAttempt (r : Registry α) (c : GuardedCall α) (clock : Clock) (noise : α)
    (outcome : Except GatewayError β) :
    NextStep β × Registry α × GuardedCall α × List Observation :=
  let (b, seen) := (r.breaker c.service).report clock.elapsed outcome
  let (next, r, c, last) := (r.setBreaker c.service b).settle c clock noise outcome
  (next, r, c, seen ++ last)

end Registry

/-- What a guarded call that runs alone did: its result, the attempts, and when it invoked. -/
structure CallRun (α β : Type) where
  result : Except GatewayError β
  attempts : Nat
  invokedAt : List Nat
  waited : Nat
  registry : Registry α
  observations : List Observation

namespace Registry

variable {α β : Type} [Factor α]

/--
Runs the attempts of a call, the outcomes of its operation given in order. The call waits at most as
often as its policy allows, which bounds the rounds.
-/
def attemptAll (clock : Clock) (noise : α) (outcome : Nat → Except GatewayError β) :
    Nat → Registry α → GuardedCall α → List Nat → Nat → List Observation → CallRun α β
  | 0, r, c, invokedAt, waited, seen =>
    ⟨.error ⟨.system, "", []⟩, c.attempts, invokedAt.reverse, waited, r, seen⟩
  | rounds + 1, r, c, invokedAt, waited, seen =>
    let (next, r, c, more) := r.startAttempt (β := β) c clock noise
    let seen := seen ++ more
    let (next, r, c, invokedAt, seen) :=
      match next with
      | .invoke =>
        let (next, r, c, more) := r.endAttempt c clock noise (outcome invokedAt.length)
        (next, r, c, waited :: invokedAt, seen ++ more)
      | _ => (next, r, c, invokedAt, seen)
    match next with
    | .done result => ⟨result, c.attempts, invokedAt.reverse, waited, r, seen⟩
    | .wait millis => attemptAll clock noise outcome rounds r c invokedAt (waited + millis) seen
    | .invoke => ⟨.error ⟨.system, "", []⟩, c.attempts, invokedAt.reverse, waited, r, seen⟩

/-- A guarded call that nothing overlaps. -/
def executeAlone (r : Registry α) (service operation : String) (payload : Option String)
    (clock : Clock) (noise : α) (outcome : Nat → Except GatewayError β) : CallRun α β :=
  let r := r.setBreaker service (r.breaker service)
  let c := r.begin service operation payload
  attemptAll clock noise outcome (r.defaults.retry.maxRetries + 1) r c [] 0 []

end Registry

/-- What repeated attempts without a breaker did. -/
structure RetryRun (β : Type) where
  result : Except GatewayError β
  calledAt : List Nat
  observations : List Observation

namespace RetryPolicy

variable {α β : Type} [Factor α]

def attemptAll (service : String) (noise : α) (outcome : Nat → Except GatewayError β) :
    Nat → Backoff α → List Nat → Nat → List Observation → RetryRun β
  | 0, _, calledAt, _, seen => ⟨.error ⟨.system, "", []⟩, calledAt.reverse, seen⟩
  | rounds + 1, b, calledAt, waited, seen =>
    let result := outcome calledAt.length
    let calledAt := waited :: calledAt
    match result with
    | .ok _ => ⟨result, calledAt.reverse, seen⟩
    | .error e =>
      if e.isRetryable then
        match b.next noise with
        | (some millis, b) =>
          attemptAll service noise outcome rounds b calledAt (waited + millis)
            (seen ++ [.retried service])
        | (none, b) =>
          ⟨.error (e.withContext "attempts" (Text.ofNat (b.attempt + 1))), calledAt.reverse, seen⟩
      else ⟨result, calledAt.reverse, seen⟩

/-- Repeats an operation after transient failures. -/
def execute (p : RetryPolicy α) (service : String) (noise : α)
    (outcome : Nat → Except GatewayError β) : RetryRun β :=
  attemptAll service noise outcome (p.maxRetries + 1) { policy := p } [] 0 []

end RetryPolicy

end VenueGateway
