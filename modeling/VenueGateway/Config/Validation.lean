import VenueGateway.Config.Basic

namespace VenueGateway

inductive ConfigRule where
  | distinctVenues (v : Venue)
  | webSocketUrl (v : Venue) (c : Channel)
  | restUrl (v : Venue)
  | heartbeat (v : Venue)
  | connectTimeout (v : Venue)
  | reconnectDelay (v : Venue)
  | multiplier (v : Venue)
  | rate (v : Venue)
  | breakerThreshold (v : Venue)
  | subAccount
  | privateAccess (v : Venue)
  | retryMultiplier
  | retryJitter
  | sharedRate
  | deadLetterCapacity
deriving DecidableEq, Repr

/-- What is said when the rule is broken. -/
def ConfigRule.message : ConfigRule → String
  | distinctVenues v => v.name ++ " is configured more than once"
  | webSocketUrl v c => v.name ++ "." ++ c.name ++ "_ws_url must be a ws:// or wss:// URL"
  | restUrl v => v.name ++ ".rest_url must be an http(s) URL"
  | heartbeat v => v.name ++ ".ping_interval_secs and pong_timeout_secs must be positive"
  | connectTimeout v => v.name ++ ".connect_timeout_secs must be positive"
  | reconnectDelay v => v.name ++ ".reconnect_delay_ms must not exceed max_reconnect_delay_ms"
  | multiplier v => v.name ++ ".backoff_multiplier must be at least 1.0"
  | rate v => v.name ++ ".rate_limit_per_second must be positive"
  | breakerThreshold v => v.name ++ ".circuit_breaker.failure_threshold must be positive"
  | subAccount => "grvt.sub_account_id is required with credentials"
  | privateAccess v => v.name ++ " has private subscriptions but no credentials"
  | retryMultiplier => "resilience.retry.backoff_multiplier must be at least 1.0"
  | retryJitter => "resilience.retry.jitter_factor must be between 0.0 and 1.0"
  | sharedRate => "resilience.rate_limit_per_second must be positive"
  | deadLetterCapacity => "resilience.dead_letter_capacity must be positive"

variable {α : Type} [Factor α]

/-- Whether an address that is given begins with one of the schemes. -/
def hasScheme (schemes : List String) (url : Option String) : Bool :=
  url.all fun u => schemes.any fun s => u.startsWith s

def isGrowth (x : α) : Bool := Amount.isFinite x && !decide (x < 1)

namespace ExchangeSettings

/-- The rules in the order in which they are told, with whether they hold. -/
def rules (e : ExchangeSettings α) : List (Bool × ConfigRule) :=
  let v := e.venue
  [(hasScheme ["ws://", "wss://"] e.publicUrl?, .webSocketUrl v .public),
    (hasScheme ["ws://", "wss://"] e.privateUrl?, .webSocketUrl v .private),
    (hasScheme ["http://", "https://"] e.restUrl?, .restUrl v),
    (e.pingIntervalSecs ≠ 0 && e.pongTimeoutSecs ≠ 0, .heartbeat v),
    (e.connectTimeoutSecs ≠ 0, .connectTimeout v),
    (e.reconnectDelayMs ≤ e.maxReconnectDelayMs, .reconnectDelay v),
    (isGrowth e.multiplier, .multiplier v),
    (e.ratePerSecond ≠ 0, .rate v),
    (e.breaker.threshold ≠ 0, .breakerThreshold v),
    (!(v == .grvt && e.hasPrivateAccess) || e.subAccount.any (· != ""), .subAccount),
    (e.hasPrivateAccess || !e.subscriptions.any (·.stream.isPrivate), .privateAccess v)]

end ExchangeSettings

namespace ResilienceSettings

def rules (s : ResilienceSettings α) : List (Bool × ConfigRule) :=
  [(isGrowth s.retry.multiplier, .retryMultiplier),
    (decide (0 ≤ s.retry.jitter) && decide (s.retry.jitter ≤ 1), .retryJitter),
    (s.ratePerSecond ≠ 0, .sharedRate),
    (s.deadLetterCapacity ≠ 0, .deadLetterCapacity)]

end ResilienceSettings

/-- The rules for a list of venues, after those that were seen before it. -/
def exchangeRules (seen : List Venue) : List (ExchangeSettings α) → List (Bool × ConfigRule)
  | [] => []
  | e :: es =>
    (!seen.contains e.venue, .distinctVenues e.venue) ::
      (if e.enabled then e.rules else []) ++ exchangeRules (e.venue :: seen) es

namespace GatewayConfig

def rules (c : GatewayConfig α) : List (Bool × ConfigRule) :=
  exchangeRules [] c.exchanges ++ c.resilience.rules

/-- The first rule that the settings break. -/
def brokenRule? (c : GatewayConfig α) : Option ConfigRule :=
  (c.rules.find? fun r => !r.1).map (·.2)

end GatewayConfig

end VenueGateway
