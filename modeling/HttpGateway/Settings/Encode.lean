/-
Settings as the value of a configuration file.

* **Settings.encode** — a table with all sections and all fields; what may be left out and is not
  set is left out.
-/
import HttpGateway.Settings.Schema
import HttpGateway.Toml.Value

namespace HttpGateway

open Toml

namespace Settings

/-- The entry of a field that is set. -/
def entry? {α : Type} (name : String) (encode : α → Value) : Option α → List (String × Value)
  | some a => [(name, encode a)]
  | none => []

def encodeNat (n : Nat) : Value := .integer n

def encodeTexts (texts : List String) : Value := .array (texts.map .text)

def encodeList {α : Type} (encode : α → Value) (xs : List α) : Value := .array (xs.map encode)

def encodeArgs (args : List (String × String)) : Value :=
  .table (args.map fun (name, s) => (name, .text s))

def Listener.encode (s : Listener) : Value :=
  .table [("bind_address", .text s.bindAddress),
    ("max_in_flight", encodeNat s.maxInFlight),
    ("max_content_length", encodeNat s.maxContentLength)]

def Timeouts.encode (s : Timeouts) : Value :=
  .table [("connect_ms", encodeNat s.connectMs),
    ("write_ms", encodeNat s.writeMs),
    ("response_ms", encodeNat s.responseMs),
    ("idle_secs", encodeNat s.idleSecs)]

def AcquireTimeoutAction.encode : AcquireTimeoutAction → Value
  | fail => .text "fail"
  | newConnection => .text "new_connection"

def PoolLimits.encode (s : PoolLimits) : Value :=
  .table [("max_connections_per_host", encodeNat s.maxConnectionsPerHost),
    ("max_pending_acquires", encodeNat s.maxPendingAcquires),
    ("acquire_timeout_ms", encodeNat s.acquireTimeoutMs),
    ("acquire_timeout_action", s.acquireTimeoutAction.encode),
    ("sweep_interval_secs", encodeNat s.sweepIntervalSecs)]

def Retries.encode (s : Retries) : Value :=
  .table [("max_retries", .integer s.maxRetries),
    ("base_delay_ms", encodeNat s.baseDelayMs),
    ("max_delay_ms", encodeNat s.maxDelayMs)]

def Resilience.encode (s : Resilience) : Value :=
  .table [("enabled", .boolean s.enabled),
    ("failure_rate_threshold", .float s.failureRateThreshold),
    ("slow_call_rate_threshold", .float s.slowCallRateThreshold),
    ("slow_call_duration_ms", encodeNat s.slowCallDurationMs),
    ("wait_duration_in_open_state_ms", encodeNat s.waitDurationInOpenStateMs),
    ("permitted_calls_in_half_open_state", encodeNat s.permittedCallsInHalfOpenState),
    ("minimum_number_of_calls", encodeNat s.minimumNumberOfCalls),
    ("sliding_window_secs", encodeNat s.slidingWindowSecs)]

def HealthCheck.encode (s : HealthCheck) : Value :=
  .table [("enabled", .boolean s.enabled),
    ("interval_secs", encodeNat s.intervalSecs),
    ("timeout_secs", encodeNat s.timeoutSecs),
    ("path", .text s.path),
    ("unhealthy_threshold", encodeNat s.unhealthyThreshold),
    ("healthy_threshold", encodeNat s.healthyThreshold)]

def Observability.encode (s : Observability) : Value :=
  .table [("log_level", .text s.logLevel),
    ("metrics_enabled", .boolean s.metricsEnabled),
    ("metrics_address", .text s.metricsAddress)]

def FilterSpec.encode (s : FilterSpec) : Value :=
  .table [("name", .text s.name), ("args", encodeArgs s.args), ("order", .integer s.order)]

def Balancing.encode : Balancing → Value
  | roundRobin => .text "round_robin"
  | weightedRoundRobin => .text "weighted_round_robin"

def HeaderRule.encode (s : HeaderRule) : Value :=
  .table [("name", .text s.name), ("values", encodeTexts s.values)]

def encodePercentage (n : Nat) : Value := .table [("percentage", encodeNat n)]

def encodeRanges (ranges : List String) : Value := .table [("ranges", encodeTexts ranges)]

def GrayRelease.encode (s : GrayRelease) : Value :=
  .table (("enabled", .boolean s.enabled) ::
    entry? "header" HeaderRule.encode s.header ++
    entry? "user_id" encodePercentage s.userPercentage ++
    entry? "ip" encodeRanges s.addressRanges ++
    entry? "percentage" encodePercentage s.requestPercentage)

def InstanceSpec.encode (s : InstanceSpec) : Value :=
  .table [("service_id", .text s.serviceId),
    ("url", .text s.url),
    ("weight", encodeNat s.weight),
    ("healthy", .boolean s.healthy),
    ("gray", .boolean s.gray)]

def RouteSpec.encode (s : RouteSpec) : Value :=
  .table ([("id", .text s.id), ("path", .text s.path), ("load_balancer", s.balancing.encode)] ++
    entry? "gray_release" GrayRelease.encode s.grayRelease ++
    ("filters", encodeList FilterSpec.encode s.filters) ::
    entry? "resilient" .boolean s.resilient ++
    [("instances", encodeList InstanceSpec.encode s.instances)])

def FallbackSpec.encode (s : FallbackSpec) : Value :=
  .table [("service_id", .text s.serviceId),
    ("status", encodeNat s.status),
    ("body", .text s.body),
    ("content_type", .text s.contentType)]

/-- All settings. -/
def encode (s : Settings) : Value :=
  .table [("listener", s.listener.encode),
    ("timeouts", s.timeouts.encode),
    ("pool", s.pool.encode),
    ("retries", s.retries.encode),
    ("resilience", s.resilience.encode),
    ("health_check", s.healthCheck.encode),
    ("observability", s.observability.encode),
    ("filters", encodeList FilterSpec.encode s.filters),
    ("routes", encodeList RouteSpec.encode s.routes),
    ("fallbacks", encodeList FallbackSpec.encode s.fallbacks)]

end Settings

end HttpGateway
