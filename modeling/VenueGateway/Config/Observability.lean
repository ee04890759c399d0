import VenueGateway.Address
import VenueGateway.Config.Environment

namespace VenueGateway

structure TracingSettings where
  enabled : Option Bool := none
  endpoint : Option String := none
  serviceName : Option String := none
deriving DecidableEq, Repr

structure MetricsSettings where
  enabled : Bool := true
  listenAddress : SocketAddress := ⟨.v4 [0, 0, 0, 0], 9090⟩
deriving DecidableEq, Repr

structure ObservabilitySettings where
  tracing : TracingSettings := {}
  metrics : MetricsSettings := {}
deriving DecidableEq, Repr

/-- Traces, which the environment sets up and the settings override, and metrics at an address. -/
structure Telemetry where
  enabled : Bool
  endpoint : String
  serviceName : String
  coloured : Bool
deriving DecidableEq, Repr

def Telemetry.ofEnvironment (e : Environment) : Telemetry where
  enabled := e.get? "OTEL_ENABLED" != some "false"
  endpoint := (e.get? "OTEL_EXPORTER_OTLP_ENDPOINT").getD "http://localhost:4317"
  serviceName := (e.get? "OTEL_SERVICE_NAME").getD "exchange-gateway"
  coloured := e.get? "LOG_ANSI" == some "true"

/-- Where the metrics are served, and the upper bounds in seconds of the classes of latencies. -/
structure Exporter where
  address : SocketAddress
  buckets : List Float

def latencyBuckets : List Float :=
  [0.0001, 0.0005, 0.001, 0.005, 0.01, 0.025, 0.05, 0.1, 0.25, 0.5, 1]

namespace ObservabilitySettings

def telemetry (s : ObservabilitySettings) (e : Environment) : Telemetry :=
  let t := Telemetry.ofEnvironment e
  { t with
    enabled := s.tracing.enabled.getD t.enabled
    endpoint := s.tracing.endpoint.getD t.endpoint
    serviceName := s.tracing.serviceName.getD t.serviceName }

def exporter? (s : ObservabilitySettings) : Option Exporter :=
  if s.metrics.enabled then some ⟨s.metrics.listenAddress, latencyBuckets⟩ else none

end ObservabilitySettings

end VenueGateway
