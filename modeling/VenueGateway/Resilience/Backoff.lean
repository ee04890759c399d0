import VenueGateway.Amount
import VenueGateway.Duration

namespace VenueGateway

/-- The arithmetic of growth factors. -/
class Factor (α : Type) extends Amount α, One α where
  ofNat : Nat → α
  /-- The whole part, from zero to a bound. -/
  wholeBelow : Nat → α → Nat

instance : Factor Float where
  one := 1.0
  ofNat n := Decimal.nearest false n 1
  wholeBelow := Decimal.wholeBelow

instance : Factor Rat where
  one := 1
  ofNat n := n
  wholeBelow bound x := min bound x.floor.toNat

namespace Factor

variable {α : Type} [Factor α]

/-- Whole powers by repeated squaring, the low bits of the exponent first. -/
def powerFrom (acc base : α) (n : Nat) : α :=
  let acc := if n % 2 = 1 then acc * base else acc
  if h : n / 2 = 0 then acc else powerFrom acc (base * base) (n / 2)
termination_by n
decreasing_by omega

/-- Below zero, the power is that of the reciprocal. -/
def power (base : α) (n : Int) : α :=
  let whole := powerFrom 1 base n.natAbs
  if n < 0 then 1 / whole else whole

/-- The smaller one; of a pair with something that is no number, the other. -/
def lesser (a b : α) : α := if a ≤ b then a else b

def atLeastOne (a : α) : α := if 1 < a then a else 1

end Factor

/-- Milliseconds are counted in words of 64 bits. -/
def maxMillis : Nat := Text.bound64 - 1

/-- The whole milliseconds, as far as a word holds them. -/
def Duration.wordMillis (d : Duration) : Nat := d.millis % Text.bound64

/-- Exponents are signed words of 32 bits. -/
def maxExponent : Nat := Text.bound32 / 2 - 1

/-- Delays that grow by a factor up to a ceiling, for a limited number of attempts. -/
structure RetryPolicy (α : Type) where
  maxRetries : Nat
  initialDelay : Duration
  maxDelay : Duration
  multiplier : α
  jitter : α
deriving Repr

namespace RetryPolicy

def standard : RetryPolicy Float := ⟨3, .ofMillis 100, .ofSeconds 5, 2, 0⟩

def noRetry : RetryPolicy Float := ⟨0, .zero, .zero, 1, 0⟩

end RetryPolicy

/-- The delays between attempts of one call. -/
structure Backoff (α : Type) where
  policy : RetryPolicy α
  attempt : Nat := 0
deriving Repr

namespace Backoff

variable {α : Type} [Factor α]

/-- The attempt as an exponent: the numbers above the largest one stand for negative ones. -/
def exponent (b : Backoff α) : Int := Int.bmod b.attempt Text.bound32

def baseMillis (b : Backoff α) : Nat :=
  let grown := Factor.ofNat b.policy.initialDelay.wordMillis *
    Factor.power b.policy.multiplier b.exponent
  min (Factor.wholeBelow maxMillis grown) b.policy.maxDelay.wordMillis

/-- The delay moved within its range of jitter; `noise` from zero to one says how far up. -/
def jittered (b : Backoff α) (noise : α) (millis : Nat) : Nat :=
  if b.policy.jitter ≤ 0 ∨ millis = 0 then millis
  else
    let base : α := Factor.ofNat millis
    let range := base * b.policy.jitter
    let low := Amount.atLeastZero (base - range)
    Factor.wholeBelow maxMillis (low + noise * (base + range - low))

/-- The next delay in milliseconds; none once the attempts are used up. -/
def next (b : Backoff α) (noise : α) : Option Nat × Backoff α :=
  if b.policy.maxRetries ≤ b.attempt then (none, b)
  else
    (some (min (b.jittered noise b.baseMillis) b.policy.maxDelay.wordMillis),
      { b with attempt := b.attempt + 1 })

def hasRemaining (b : Backoff α) : Bool := b.attempt < b.policy.maxRetries

def reset (b : Backoff α) : Backoff α := { b with attempt := 0 }

end Backoff

end VenueGateway
