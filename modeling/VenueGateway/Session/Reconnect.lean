import VenueGateway.Resilience.Backoff
import VenueGateway.Session.Config

namespace VenueGateway

/-- The delays between attempts to connect again. They are counted from the last success. -/
structure ReconnectPolicy (α : Type) where
  initialDelay : Duration
  maxDelay : Duration
  multiplier : α
  jitter : Bool
  maxAttempts : Nat
  attempt : Nat := 0
deriving Repr

namespace ReconnectPolicy

variable {α : Type} [Factor α]

def ofConfig (c : SessionConfig α) : ReconnectPolicy α :=
  ⟨c.delay, c.maxDelay, c.multiplier, c.jitter, c.attempts, 0⟩

/-- The attempt as an exponent, never above the largest one. -/
def exponent (p : ReconnectPolicy α) : Nat := min p.attempt maxExponent

def cappedMillis (p : ReconnectPolicy α) : α :=
  Factor.lesser
    (Factor.ofNat p.initialDelay.millis *
      Factor.power (Factor.atLeastOne p.multiplier) p.exponent)
    (Factor.ofNat p.maxDelay.millis)

/--
The next delay in milliseconds; none once the attempts are used up. With jitter it lies anywhere up
to the capped one; `noise` from zero to one says where.
-/
def next (p : ReconnectPolicy α) (noise : α) : Option Nat × ReconnectPolicy α :=
  if p.maxAttempts ≤ p.attempt then (none, p)
  else
    let capped := p.cappedMillis
    let delay := if p.jitter ∧ 0 < capped then noise * capped else capped
    (some (Factor.wholeBelow maxMillis delay), { p with attempt := p.attempt + 1 })

def reset (p : ReconnectPolicy α) : ReconnectPolicy α := { p with attempt := 0 }

def hasRemaining (p : ReconnectPolicy α) : Bool := p.attempt < p.maxAttempts

end ReconnectPolicy

end VenueGateway
