import VenueGateway.Dialect.Settings
import VenueGateway.Error.Encoding
import VenueGateway.Session.Basic

namespace VenueGateway

open Json

def SessionConfig.ofJson (j : Json) : SessionConfig Float :=
  let d := SessionConfig.standard
  let millis (key : String) (default : Duration) : Duration :=
    ((j.get key).unsigned?).elim default .ofMillis
  { pingInterval := millis "ping_interval_ms" d.pingInterval
    pongTimeout := millis "pong_timeout_ms" d.pongTimeout
    connectTimeout := millis "connect_timeout_ms" d.connectTimeout
    attempts := j.natOr "reconnect_attempts" d.attempts
    delay := millis "reconnect_delay_ms" d.delay
    maxDelay := millis "max_reconnect_delay_ms" d.maxDelay
    multiplier := j.floatOr "backoff_multiplier" d.multiplier
    jitter := false
    refreshInterval := ((j.get "session_refresh_interval_ms").unsigned?).map .ofMillis
    maxFrame := j.natOr "max_frame_size" d.maxFrame
    queueCapacity := j.natOr "outbound_buffer" d.queueCapacity }

/-- Credentials that cannot be read are none. -/
def Credentials.ofJson (j : Json) : Credentials := (Credentials.ofJson? j).getD .none

def Session.ofJson (j : Json) : Session where
  dialect := .ofJson (.ofJson (j.get "venue")) (j.get "adapter")
  channel := .ofJson (j.get "channel")
  config := .ofJson (j.get "config")
  credentials := .ofJson (j.get "credentials")

namespace SessionEvent

def toJson (e : SessionEvent) : Json :=
  let tagged (tag : String) (more : List Json) : Json :=
    .object [(tag, .array ([.string e.venue.name, .string e.channel.name] ++ more))]
  match e.notice with
  | .connected => tagged "connected" []
  | .connectFailed error => tagged "connect_failed" [error.toJson]
  | .reconnected n => tagged "reconnected" [.ofNat n]
  | .disconnected reason => tagged "disconnected" [.string reason]
  | .gaveUp n => tagged "gave_up" [.ofNat n]
  | .record r => .object [("record", .array [.string e.channel.name, r.toJson])]

/-- An event by its type, any other type being a record; else what is wrong with it. -/
def ofJson (j : Json) : Except String SessionEvent := do
  let notice : SessionNotice ←
    match j.textAt "type" with
    | "connected" => pure .connected
    | "connect_failed" =>
      match GatewayError.outcomeOfJson (j.get "error") with
      | .error e => pure (.connectFailed e)
      | .ok _ => throw "bad_input"
    | "reconnected" => pure (.reconnected 1)
    | "disconnected" => pure (.disconnected (j.textAt "reason"))
    | "gave_up" => pure (.gaveUp 1)
    | _ => ((Record.ofJson? (j.get "event")).map .record).elim (throw "deserialize") pure
  pure ⟨.ofJson (j.get "venue"), .ofJson (j.get "channel"), notice⟩

end SessionEvent

end VenueGateway
