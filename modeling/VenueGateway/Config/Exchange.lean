import VenueGateway.Credentials
import VenueGateway.Dialect.Basic
import VenueGateway.Resilience.Registry
import VenueGateway.Session.Config

namespace VenueGateway

structure BreakerSettings where
  threshold : Nat := 5
  retryTimeoutSecs : Nat := 30
deriving DecidableEq, Repr

def BreakerSettings.toConfig (s : BreakerSettings) : BreakerConfig :=
  ⟨s.threshold, .ofSeconds s.retryTimeoutSecs⟩

structure KeySettings where
  apiKey : Option String := none
  apiSecret : Option String := none
  sessionCookie : Option String := none
  account : Option String := none
deriving DecidableEq

/-- The printed form shows the account and stars for the rest. -/
def KeySettings.shown (k : KeySettings) : String :=
  let stars (s : Option String) : String := s.elim "None" fun _ => "Some(\"***\")"
  let account := k.account.elim "None" fun s => "Some(" ++ Text.showQuoted s ++ ")"
  "CredentialsConfig \x7b api_key: " ++ stars k.apiKey ++ ", api_secret: " ++ stars k.apiSecret ++
    ", session_cookie: " ++ stars k.sessionCookie ++ ", account_id: " ++ account ++ " \x7d"

structure StreamSettings where
  stream : StreamKind
  symbol : String
deriving DecidableEq, Repr

structure ExchangeSettings (α : Type) where
  venue : Venue
  enabled : Bool
  keys : KeySettings
  publicUrl? : Option String
  privateUrl? : Option String
  restUrl? : Option String
  pingIntervalSecs : Nat
  pongTimeoutSecs : Nat
  connectTimeoutSecs : Nat
  reconnectAttempts : Nat
  reconnectDelayMs : Nat
  maxReconnectDelayMs : Nat
  multiplier : α
  jitter : Bool
  /-- Zero turns the refresh off. -/
  refreshIntervalSecs : Nat
  requestTimeoutSecs : Nat
  ratePerSecond : Nat
  breaker : BreakerSettings
  compact : Bool
  subAccount : Option String
  authUrl : Option String
  receiveWindowMs : Nat
  subscriptions : List StreamSettings

namespace ExchangeSettings

variable {α : Type}

/-- The settings of a venue of which only the name is given. -/
def standard (venue : Venue) : ExchangeSettings Float where
  venue := venue
  enabled := true
  keys := {}
  publicUrl? := none
  privateUrl? := none
  restUrl? := none
  pingIntervalSecs := 20
  pongTimeoutSecs := 10
  connectTimeoutSecs := 10
  reconnectAttempts := 10
  reconnectDelayMs := 1000
  maxReconnectDelayMs := 30000
  multiplier := 2
  jitter := true
  refreshIntervalSecs := 1800
  requestTimeoutSecs := 10
  ratePerSecond := 10
  breaker := {}
  compact := false
  subAccount := none
  authUrl := none
  receiveWindowMs := Dialect.defaultReceiveWindowMs
  subscriptions := []

def session (e : ExchangeSettings α) : SessionConfig α where
  pingInterval := .ofSeconds e.pingIntervalSecs
  pongTimeout := .ofSeconds e.pongTimeoutSecs
  connectTimeout := .ofSeconds e.connectTimeoutSecs
  attempts := e.reconnectAttempts
  delay := .ofMillis e.reconnectDelayMs
  maxDelay := .ofMillis e.maxReconnectDelayMs
  multiplier := e.multiplier
  jitter := e.jitter
  refreshInterval :=
    if e.refreshIntervalSecs = 0 then none else some (.ofSeconds e.refreshIntervalSecs)
  maxFrame := defaultMaxFrame
  queueCapacity := SessionConfig.standard.queueCapacity

def limits (e : ExchangeSettings α) : ServiceLimits := ⟨e.breaker.toConfig, e.ratePerSecond⟩

def requestTimeout (e : ExchangeSettings α) : Duration := .ofSeconds e.requestTimeoutSecs

/--
GRVT signs in by cookie, which a login with the key alone can fill in; the other venues need both
halves of a key pair. Empty texts do not count.
-/
def credentials (e : ExchangeSettings α) : Credentials :=
  let key := e.keys.apiKey.filter (· != "")
  match e.venue with
  | .grvt =>
    let cookie := e.keys.sessionCookie.getD ""
    if cookie = "" ∧ key = none then .none
    else .cookie cookie (e.keys.account.getD "") key
  | .binance | .deribit =>
    match key, e.keys.apiSecret.filter (· != "") with
    | some key, some secret => .apiKey key secret
    | _, _ => .none

/-- Whether a private session can be opened. -/
def hasPrivateAccess (e : ExchangeSettings α) : Bool := e.credentials != .none

def publicUrl (e : ExchangeSettings α) : String :=
  e.publicUrl?.getD <| match e.venue with
    | .binance => "wss://fstream.binance.com/ws"
    | .deribit => "wss://www.deribit.com/ws/api/v2"
    | .grvt => "wss://market-data.grvt.io/ws/full"

def privateUrl (e : ExchangeSettings α) : String :=
  e.privateUrl?.getD <| match e.venue with
    | .binance => "wss://fstream.binance.com/ws"
    | .deribit => "wss://www.deribit.com/ws/api/v2"
    | .grvt => "wss://trades.grvt.io/ws/full"

def restUrl (e : ExchangeSettings α) : String :=
  e.restUrl?.getD <| match e.venue with
    | .binance => "https://fapi.binance.com"
    | .deribit => "https://www.deribit.com"
    | .grvt => "https://trades.grvt.io"

end ExchangeSettings

end VenueGateway
