import VenueGateway.Config.Exchange
import VenueGateway.Config.Observability

namespace VenueGateway

structure RetrySettings (α : Type) where
  maxRetries : Nat
  initialDelayMs : Nat
  maxDelayMs : Nat
  multiplier : α
  jitter : α
deriving Repr

namespace RetrySettings

def standard : RetrySettings Float := ⟨3, 100, 5000, 2, 0⟩

def toPolicy {α : Type} (s : RetrySettings α) : RetryPolicy α :=
  ⟨s.maxRetries, .ofMillis s.initialDelayMs, .ofMillis s.maxDelayMs, s.multiplier, s.jitter⟩

end RetrySettings

structure ResilienceSettings (α : Type) where
  breaker : BreakerSettings
  retry : RetrySettings α
  ratePerSecond : Nat
  deadLetterCapacity : Nat
deriving Repr

namespace ResilienceSettings

def standard : ResilienceSettings Float := ⟨{}, .standard, 10, 1000⟩

def toConfig {α : Type} (s : ResilienceSettings α) : ResilienceConfig α :=
  ⟨s.breaker.toConfig, s.retry.toPolicy, s.ratePerSecond, s.deadLetterCapacity⟩

end ResilienceSettings

structure GatewayConfig (α : Type) where
  exchanges : List (ExchangeSettings α)
  resilience : ResilienceSettings α
  observability : ObservabilitySettings

namespace GatewayConfig

variable {α : Type}

def enabledExchanges (c : GatewayConfig α) : List (ExchangeSettings α) :=
  c.exchanges.filter (·.enabled)

def exchange? (c : GatewayConfig α) (v : Venue) : Option (ExchangeSettings α) :=
  c.exchanges.find? (·.venue == v)

end GatewayConfig

end VenueGateway
