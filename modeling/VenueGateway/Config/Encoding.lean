import VenueGateway.Config.Document
import VenueGateway.Json.Lenient
import VenueGateway.Resilience.Encoding

namespace VenueGateway

open Json

def BreakerSettings.toJson (s : BreakerSettings) : Json :=
  .object [("failure_threshold", .ofNat s.threshold),
    ("retry_timeout_secs", .ofNat s.retryTimeoutSecs)]

def KeySettings.toJson (k : KeySettings) : Json :=
  .object [("api_key", ofText? k.apiKey), ("api_secret", ofText? k.apiSecret),
    ("session_cookie", ofText? k.sessionCookie), ("account_id", ofText? k.account)]

def StreamSettings.toJson (s : StreamSettings) : Json :=
  .object [("stream", s.stream.name), ("symbol", s.symbol)]

def ServiceLimits.toJson (l : ServiceLimits) : Json :=
  .object [("circuit_breaker", l.breaker.toJson), ("rate_limit_per_second", .ofNat l.ratePerSecond)]

/-- Milliseconds in a word of 64 bits. -/
def Duration.toMillisJson (d : Duration) : Json := .ofNat (d.millis % Text.bound64)

def SessionConfig.toJson (c : SessionConfig Float) : Json :=
  .object [("ping_interval_ms", c.pingInterval.toMillisJson),
    ("pong_timeout_ms", c.pongTimeout.toMillisJson),
    ("connect_timeout_ms", c.connectTimeout.toMillisJson),
    ("reconnect_attempts", .ofNat c.attempts), ("reconnect_delay_ms", c.delay.toMillisJson),
    ("max_reconnect_delay_ms", c.maxDelay.toMillisJson),
    ("backoff_multiplier", .ofFloat c.multiplier), ("reconnect_jitter", .bool c.jitter),
    ("session_refresh_interval_ms", .ofOption Duration.toMillisJson c.refreshInterval),
    ("max_frame_size", .ofNat c.maxFrame), ("outbound_buffer", .ofNat c.queueCapacity)]

namespace ExchangeSettings

def toJson (e : ExchangeSettings Float) : Json :=
  .object [("venue", e.venue.name), ("enabled", .bool e.enabled), ("credentials", e.keys.toJson),
    ("public_ws_url", ofText? e.publicUrl?), ("private_ws_url", ofText? e.privateUrl?),
    ("rest_url", ofText? e.restUrl?), ("ping_interval_secs", .ofNat e.pingIntervalSecs),
    ("pong_timeout_secs", .ofNat e.pongTimeoutSecs),
    ("connect_timeout_secs", .ofNat e.connectTimeoutSecs),
    ("reconnect_attempts", .ofNat e.reconnectAttempts),
    ("reconnect_delay_ms", .ofNat e.reconnectDelayMs),
    ("max_reconnect_delay_ms", .ofNat e.maxReconnectDelayMs),
    ("backoff_multiplier", .ofFloat e.multiplier), ("reconnect_jitter", .bool e.jitter),
    ("session_refresh_interval_secs", .ofNat e.refreshIntervalSecs),
    ("request_timeout_secs", .ofNat e.requestTimeoutSecs),
    ("rate_limit_per_second", .ofNat e.ratePerSecond), ("circuit_breaker", e.breaker.toJson),
    ("compact", .bool e.compact), ("sub_account_id", ofText? e.subAccount),
    ("auth_url", ofText? e.authUrl), ("recv_window_ms", .ofNat e.receiveWindowMs),
    ("subscriptions", .array (e.subscriptions.map StreamSettings.toJson))]

/-- The settings with what follows from them. -/
def report (e : ExchangeSettings Float) : Json :=
  .object [("config", e.toJson), ("session", e.session.toJson), ("limits", e.limits.toJson),
    ("request_timeout_ms", e.requestTimeout.toMillisJson), ("credentials", e.credentials.toJson),
    ("private", .bool e.hasPrivateAccess), ("credentials_debug", e.keys.shown),
    ("urls", ofTexts [e.publicUrl, e.privateUrl, e.restUrl])]

end ExchangeSettings

def RetrySettings.toJson (s : RetrySettings Float) : Json :=
  .object [("max_retries", .ofNat s.maxRetries), ("initial_delay_ms", .ofNat s.initialDelayMs),
    ("max_delay_ms", .ofNat s.maxDelayMs), ("backoff_multiplier", .ofFloat s.multiplier),
    ("jitter_factor", .ofFloat s.jitter)]

def ResilienceSettings.toJson (s : ResilienceSettings Float) : Json :=
  .object [("circuit_breaker", s.breaker.toJson), ("retry", s.retry.toJson),
    ("rate_limit_per_second", .ofNat s.ratePerSecond),
    ("dead_letter_capacity", .ofNat s.deadLetterCapacity)]

def RetryPolicy.toJson (p : RetryPolicy Float) : Json :=
  .object [("max_retries", .ofNat p.maxRetries), ("initial_delay", p.initialDelay.toJson),
    ("max_delay", p.maxDelay.toJson), ("backoff_multiplier", .ofFloat p.multiplier),
    ("jitter_factor", .ofFloat p.jitter)]

def ResilienceConfig.toJson (c : ResilienceConfig Float) : Json :=
  .object [("circuit_breaker", c.breaker.toJson), ("retry", c.retry.toJson),
    ("rate_limit_per_second", .ofNat c.ratePerSecond),
    ("dead_letter_capacity", .ofNat c.deadLetterCapacity)]

def ObservabilitySettings.toJson (s : ObservabilitySettings) : Json :=
  .object [("tracing", .object [("otel_enabled", .ofOption .bool s.tracing.enabled),
      ("otlp_endpoint", ofText? s.tracing.endpoint),
      ("service_name", ofText? s.tracing.serviceName)]),
    ("metrics", .object [("enabled", .bool s.metrics.enabled),
      ("listen_addr", s.metrics.listenAddress.shown)])]

def Telemetry.toJson (t : Telemetry) : Json :=
  .object [("otel_enabled", .bool t.enabled), ("otlp_endpoint", t.endpoint),
    ("service_name", t.serviceName), ("ansi", .bool t.coloured)]

def Exporter.toJson (x : Exporter) : Json :=
  .array [x.address.shown, .array (x.buckets.map .ofFloat)]

/-- The settings with what follows from them in an environment. -/
def GatewayConfig.report (e : Environment) (c : GatewayConfig Float) : Json :=
  .object [("exchanges", .array (c.exchanges.map ExchangeSettings.report)),
    ("enabled", ofTexts (c.enabledExchanges.map (·.venue.name))),
    ("lookup", .array (Venue.all.map fun v => .bool (c.exchange? v).isSome)),
    ("resilience", c.resilience.toJson), ("resilience_config", c.resilience.toConfig.toJson),
    ("observability", c.observability.toJson),
    ("telemetry", (c.observability.telemetry e).toJson),
    ("metrics", .ofOption Exporter.toJson c.observability.exporter?)]

def ConfigError.toJson : ConfigError → Json
  | notFound => .object [("error", "ReadError"), ("message", "NotFound")]
  | notText => .object [("error", "ReadError"), ("message", "InvalidData")]
  | malformed => .object [("error", "ParseError")]
  | invalid rule =>
    .object [("error", "ValidationError"),
      ("message", .string ("Config validation failed: " ++ rule.message))]

def Environment.ofJson (j : Json) : Environment :=
  match j with
  | .object fields => ⟨fields.filterMap fun (k, v) => v.string?.map (k, ·)⟩
  | _ => {}

end VenueGateway
