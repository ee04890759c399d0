import VenueGateway.Config.Validation
import VenueGateway.Text.Utf8
import VenueGateway.Yaml.Document
import VenueGateway.Yaml.Source

namespace VenueGateway

open Yaml

variable {α : Type} (s : Source α)

/-- Here as in all settings, a field that is not there takes its standard value, and one that nobody
asks for is ignored. -/
def BreakerSettings.ofYaml? (y : α) : Option BreakerSettings := do
  let f ← s.fields? y
  let d : BreakerSettings := {}
  return {
    threshold := ← f.defaulted "failure_threshold" d.threshold s.nat32?
    retryTimeoutSecs := ← f.defaulted "retry_timeout_secs" d.retryTimeoutSecs s.nat64? }

def KeySettings.ofYaml? (y : α) : Option KeySettings := do
  let f ← s.fields? y
  return {
    apiKey := ← f.defaulted "api_key" none (s.option? s.text?)
    apiSecret := ← f.defaulted "api_secret" none (s.option? s.text?)
    sessionCookie := ← f.defaulted "session_cookie" none (s.option? s.text?)
    account := ← f.defaulted "account_id" none (s.option? s.text?) }

def StreamSettings.ofYaml? (y : α) : Option StreamSettings := do
  let f ← s.fields? y
  return {
    stream := ← f.required "stream" (s.name? · >>= StreamKind.ofName?)
    symbol := ← f.required "symbol" s.text? }

def ExchangeSettings.ofYaml? (y : α) : Option (ExchangeSettings Float) := do
  let f ← s.fields? y
  let d := standard (← f.required "venue" (s.name? · >>= Venue.ofName?))
  return {
    venue := d.venue
    enabled := ← f.defaulted "enabled" d.enabled s.bool?
    keys := ← f.defaulted "credentials" d.keys (KeySettings.ofYaml? s)
    publicUrl? := ← f.defaulted "public_ws_url" none (s.option? s.text?)
    privateUrl? := ← f.defaulted "private_ws_url" none (s.option? s.text?)
    restUrl? := ← f.defaulted "rest_url" none (s.option? s.text?)
    pingIntervalSecs := ← f.defaulted "ping_interval_secs" d.pingIntervalSecs s.nat64?
    pongTimeoutSecs := ← f.defaulted "pong_timeout_secs" d.pongTimeoutSecs s.nat64?
    connectTimeoutSecs := ← f.defaulted "connect_timeout_secs" d.connectTimeoutSecs s.nat64?
    reconnectAttempts := ← f.defaulted "reconnect_attempts" d.reconnectAttempts s.nat32?
    reconnectDelayMs := ← f.defaulted "reconnect_delay_ms" d.reconnectDelayMs s.nat64?
    maxReconnectDelayMs := ← f.defaulted "max_reconnect_delay_ms" d.maxReconnectDelayMs s.nat64?
    multiplier := ← f.defaulted "backoff_multiplier" d.multiplier s.float?
    jitter := ← f.defaulted "reconnect_jitter" d.jitter s.bool?
    refreshIntervalSecs :=
      ← f.defaulted "session_refresh_interval_secs" d.refreshIntervalSecs s.nat64?
    requestTimeoutSecs := ← f.defaulted "request_timeout_secs" d.requestTimeoutSecs s.nat64?
    ratePerSecond := ← f.defaulted "rate_limit_per_second" d.ratePerSecond s.nat32?
    breaker := ← f.defaulted "circuit_breaker" d.breaker (BreakerSettings.ofYaml? s)
    compact := ← f.defaulted "compact" d.compact s.bool?
    subAccount := ← f.defaulted "sub_account_id" none (s.option? s.text?)
    authUrl := ← f.defaulted "auth_url" none (s.option? s.text?)
    receiveWindowMs := ← f.defaulted "recv_window_ms" d.receiveWindowMs s.nat64?
    subscriptions := ← f.defaulted "subscriptions" d.subscriptions
      (s.list? (StreamSettings.ofYaml? s)) }

def RetrySettings.ofYaml? (y : α) : Option (RetrySettings Float) := do
  let f ← s.fields? y
  let d := standard
  return {
    maxRetries := ← f.defaulted "max_retries" d.maxRetries s.nat32?
    initialDelayMs := ← f.defaulted "initial_delay_ms" d.initialDelayMs s.nat64?
    maxDelayMs := ← f.defaulted "max_delay_ms" d.maxDelayMs s.nat64?
    multiplier := ← f.defaulted "backoff_multiplier" d.multiplier s.float?
    jitter := ← f.defaulted "jitter_factor" d.jitter s.float? }

def ResilienceSettings.ofYaml? (y : α) : Option (ResilienceSettings Float) := do
  let f ← s.fields? y
  let d := standard
  return {
    breaker := ← f.defaulted "circuit_breaker" d.breaker (BreakerSettings.ofYaml? s)
    retry := ← f.defaulted "retry" d.retry (RetrySettings.ofYaml? s)
    ratePerSecond := ← f.defaulted "rate_limit_per_second" d.ratePerSecond s.nat32?
    deadLetterCapacity := ← f.defaulted "dead_letter_capacity" d.deadLetterCapacity s.nat64? }

def TracingSettings.ofYaml? (y : α) : Option TracingSettings := do
  let f ← s.fields? y
  return {
    enabled := ← f.defaulted "otel_enabled" none (s.option? s.bool?)
    endpoint := ← f.defaulted "otlp_endpoint" none (s.option? s.text?)
    serviceName := ← f.defaulted "service_name" none (s.option? s.text?) }

def MetricsSettings.ofYaml? (y : α) : Option MetricsSettings := do
  let f ← s.fields? y
  let d : MetricsSettings := {}
  return {
    enabled := ← f.defaulted "enabled" d.enabled s.bool?
    listenAddress :=
      ← f.defaulted "listen_addr" d.listenAddress (s.text? · >>= SocketAddress.read) }

def ObservabilitySettings.ofYaml? (y : α) : Option ObservabilitySettings := do
  let f ← s.fields? y
  return {
    tracing := ← f.defaulted "tracing" {} (TracingSettings.ofYaml? s)
    metrics := ← f.defaulted "metrics" {} (MetricsSettings.ofYaml? s) }

inductive ConfigError where
  | notFound
  | notText
  | malformed
  | invalid (rule : ConfigRule)
deriving DecidableEq, Repr

namespace GatewayConfig

def ofYaml? (y : α) : Option (GatewayConfig Float) := do
  let f ← s.fields? y
  return {
    exchanges := ← f.defaulted "exchanges" [] (s.list? (ExchangeSettings.ofYaml? s))
    resilience := ← f.defaulted "resilience" .standard (ResilienceSettings.ofYaml? s)
    observability := ← f.defaulted "observability" {} (ObservabilitySettings.ofYaml? s) }

def ofText (e : Environment) (text : String) : Except ConfigError (GatewayConfig Float) :=
  match (Yaml.Document.read (e.interpolate text)).bind (·.readBy ofYaml?) with
  | none => .error .malformed
  | some c =>
    match c.brokenRule? with
    | some rule => .error (.invalid rule)
    | none => .ok c

/-- Reads a file's content; nothing stands for a file that is not there. -/
def ofFile (e : Environment) (bytes : Option (List UInt8)) :
    Except ConfigError (GatewayConfig Float) :=
  match bytes with
  | none => .error .notFound
  | some bs =>
    match Text.decodeUtf8 bs with
    | none => .error .notText
    | some text => ofText e text

end GatewayConfig

end VenueGateway
