import VenueGateway.Resilience.Backoff
import VenueGateway.Resilience.Breaker
import VenueGateway.Resilience.DeadLetter
import VenueGateway.Resilience.Limiter

namespace VenueGateway

structure ServiceLimits where
  breaker : BreakerConfig
  ratePerSecond : Nat
deriving DecidableEq, Repr

structure ResilienceConfig (α : Type) where
  breaker : BreakerConfig
  retry : RetryPolicy α
  ratePerSecond : Nat
  deadLetterCapacity : Nat
deriving Repr

/-- The breakers and limiters of all services, made when first asked for, and the dead letters. -/
structure Registry (α : Type) where
  defaults : ResilienceConfig α
  overrides : List (String × ServiceLimits) := []
  breakers : List (String × Breaker) := []
  limiters : List (String × Limiter) := []
  deadLetters : DeadLetters
deriving Repr

namespace Registry

variable {α : Type}

def ofConfig (c : ResilienceConfig α) : Registry α :=
  { defaults := c, deadLetters := .ofCapacity c.deadLetterCapacity }

/-- Overrides a service's limits; its breaker and limiter start afresh. -/
def configure (r : Registry α) (service : String) (limits : ServiceLimits) (elapsed : Nat := 0) :
    Registry α :=
  { r with
    overrides := Json.insertField service limits r.overrides
    breakers := Json.insertField service { name := service, config := limits.breaker } r.breakers
    limiters := Json.insertField service
      { name := service, maxPerSecond := limits.ratePerSecond, origin := elapsed } r.limiters }

def limitsFor (r : Registry α) (service : String) : ServiceLimits :=
  (Json.lookup service r.overrides).getD ⟨r.defaults.breaker, r.defaults.ratePerSecond⟩

def breaker (r : Registry α) (service : String) : Breaker :=
  (Json.lookup service r.breakers).getD { name := service, config := (r.limitsFor service).breaker }

def limiter? (r : Registry α) (service : String) : Option Limiter :=
  Json.lookup service r.limiters

/-- The limiter of a service; one that is missing is made at the time given. -/
def limiter (r : Registry α) (service : String) (elapsed : Nat := 0) : Limiter :=
  (r.limiter? service).getD
    { name := service, maxPerSecond := (r.limitsFor service).ratePerSecond, origin := elapsed }

def setBreaker (r : Registry α) (service : String) (b : Breaker) : Registry α :=
  { r with breakers := Json.insertField service b r.breakers }

def setLimiter (r : Registry α) (service : String) (l : Limiter) : Registry α :=
  { r with limiters := Json.insertField service l r.limiters }

/-- Takes one call of the service's allowance in the one-second window at hand. -/
def checkRate (r : Registry α) (service : String) (elapsed : Nat) :
    Except GatewayError Unit × Registry α × List Observation :=
  let (result, l, seen) := (r.limiter service elapsed).check elapsed
  (result, r.setLimiter service l, seen)

end Registry

end VenueGateway
