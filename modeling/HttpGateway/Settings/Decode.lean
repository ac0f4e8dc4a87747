/-
Settings from the values of a configuration file.

A section is a table, or an array of its fields in the order in which they are declared. A field
that is not there has its default value; one without a default has to be there. Fields that are not
known are ignored.

* **Settings.decode** — all settings; `none` where a value has the wrong type or does not fit.
* **Lookup** — the fields of a section by name.
-/
import HttpGateway.Keyed
import HttpGateway.Settings.Schema
import HttpGateway.Toml.Value

namespace HttpGateway

open Number Toml

namespace Settings

/-- The fields of a section by name. -/
abbrev Lookup := String → Option Value

/-- The fields of a section. `names` are the declared ones. -/
def lookup? (names : List String) : Value → Option Lookup
  | .array elements => some fun name => elements[names.idxOf name]?
  | v => v.fields?.map fun entries name => Keyed.findIn name entries

/-- A field that has to be there. -/
def required {α : Type} (get : Lookup) (name : String) (decode : Value → Option α) : Option α :=
  (get name).bind decode

/-- A field that has a default value. -/
def optional {α : Type} (get : Lookup) (name : String) (default : α)
    (decode : Value → Option α) : Option α :=
  match get name with
  | some v => decode v
  | none => some default

/-- A field that may be left out. -/
def absent? {α : Type} (get : Lookup) (name : String) (decode : Value → Option α) :
    Option (Option α) :=
  optional get name none fun v => (decode v).map some

def decodeText : Value → Option String
  | .text s => some s
  | _ => none

def decodeBool : Value → Option Bool
  | .boolean b => some b
  | _ => none

/-- A whole number below a power of two. -/
def decodeNat (bits : Nat) : Value → Option Nat
  | .integer n => if 0 ≤ n ∧ n.toNat < Nat.pow 2 bits then some n.toNat else none
  | _ => none

/-- A whole number of 32 bits with a sign. -/
def decodeInt : Value → Option Int
  | .integer n => if -2147483648 ≤ n ∧ n < 2147483648 then some n else none
  | _ => none

/-- A number of the 32-bit format; whole numbers count as well. -/
def decodeFloat : Value → Option Floating
  | .float x => some (x.convert .single)
  | .integer n => some (.ofInt .single n)
  | _ => none

/-- The elements of an array. -/
def decodeList {α : Type} (decode : Value → Option α) : Value → Option (List α)
  | .array elements => elements.mapM decode
  | _ => none

/-- One of several names. A name may also be written as a table with nothing behind it. -/
def decodeName (names : List String) : Value → Option String
  | .text s => if names.contains s then some s else none
  | .table [(s, v)] => if names.contains s && v.isEmpty then some s else none
  | _ => none

/-- Texts by name, sorted by name. -/
def decodeArgs (v : Value) : Option (List (String × String)) := do
  let entries ← v.fields?
  let args ← entries.mapM fun (name, v) => (decodeText v).map (name, ·)
  return args.mergeSort fun a b => a.1 ≤ b.1

def Listener.decode (v : Value) : Option Listener := do
  let get ← lookup? ["bind_address", "max_in_flight", "max_content_length"] v
  let d : Listener := {}
  return { bindAddress := ← optional get "bind_address" d.bindAddress decodeText
           maxInFlight := ← optional get "max_in_flight" d.maxInFlight (decodeNat 64)
           maxContentLength :=
             ← optional get "max_content_length" d.maxContentLength (decodeNat 64) }

def Timeouts.decode (v : Value) : Option Timeouts := do
  let get ← lookup? ["connect_ms", "write_ms", "response_ms", "idle_secs"] v
  let d : Timeouts := {}
  return { connectMs := ← optional get "connect_ms" d.connectMs (decodeNat 64)
           writeMs := ← optional get "write_ms" d.writeMs (decodeNat 64)
           responseMs := ← optional get "response_ms" d.responseMs (decodeNat 64)
           idleSecs := ← optional get "idle_secs" d.idleSecs (decodeNat 64) }

def AcquireTimeoutAction.decode (v : Value) : Option AcquireTimeoutAction := do
  let name ← decodeName ["fail", "new_connection"] v
  return if name = "fail" then .fail else .newConnection

def PoolLimits.decode (v : Value) : Option PoolLimits := do
  let get ← lookup? ["max_connections_per_host", "max_pending_acquires", "acquire_timeout_ms",
    "acquire_timeout_action", "sweep_interval_secs"] v
  let d : PoolLimits := {}
  return { maxConnectionsPerHost :=
             ← optional get "max_connections_per_host" d.maxConnectionsPerHost (decodeNat 64)
           maxPendingAcquires :=
             ← optional get "max_pending_acquires" d.maxPendingAcquires (decodeNat 64)
           acquireTimeoutMs :=
             ← optional get "acquire_timeout_ms" d.acquireTimeoutMs (decodeNat 64)
           acquireTimeoutAction :=
             ← optional get "acquire_timeout_action" d.acquireTimeoutAction
               AcquireTimeoutAction.decode
           sweepIntervalSecs :=
             ← optional get "sweep_interval_secs" d.sweepIntervalSecs (decodeNat 64) }

def Retries.decode (v : Value) : Option Retries := do
  let get ← lookup? ["max_retries", "base_delay_ms", "max_delay_ms"] v
  let d : Retries := {}
  return { maxRetries := ← optional get "max_retries" d.maxRetries decodeInt
           baseDelayMs := ← optional get "base_delay_ms" d.baseDelayMs (decodeNat 64)
           maxDelayMs := ← optional get "max_delay_ms" d.maxDelayMs (decodeNat 64) }

def Resilience.decode (v : Value) : Option Resilience := do
  let get ← lookup? ["enabled", "failure_rate_threshold", "slow_call_rate_threshold",
    "slow_call_duration_ms", "wait_duration_in_open_state_ms",
    "permitted_calls_in_half_open_state", "minimum_number_of_calls", "sliding_window_secs"] v
  let d : Resilience := {}
  return { enabled := ← optional get "enabled" d.enabled decodeBool
           failureRateThreshold :=
             ← optional get "failure_rate_threshold" d.failureRateThreshold decodeFloat
           slowCallRateThreshold :=
             ← optional get "slow_call_rate_threshold" d.slowCallRateThreshold decodeFloat
           slowCallDurationMs :=
             ← optional get "slow_call_duration_ms" d.slowCallDurationMs (decodeNat 64)
           waitDurationInOpenStateMs :=
             ← optional get "wait_duration_in_open_state_ms" d.waitDurationInOpenStateMs
               (decodeNat 64)
           permittedCallsInHalfOpenState :=
             ← optional get "permitted_calls_in_half_open_state" d.permittedCallsInHalfOpenState
               (decodeNat 32)
           minimumNumberOfCalls :=
             ← optional get "minimum_number_of_calls" d.minimumNumberOfCalls (decodeNat 32)
           slidingWindowSecs :=
             ← optional get "sliding_window_secs" d.slidingWindowSecs (decodeNat 64) }

def HealthCheck.decode (v : Value) : Option HealthCheck := do
  let get ← lookup? ["enabled", "interval_secs", "timeout_secs", "path", "unhealthy_threshold",
    "healthy_threshold"] v
  let d : HealthCheck := {}
  return { enabled := ← optional get "enabled" d.enabled decodeBool
           intervalSecs := ← optional get "interval_secs" d.intervalSecs (decodeNat 64)
           timeoutSecs := ← optional get "timeout_secs" d.timeoutSecs (decodeNat 64)
           path := ← optional get "path" d.path decodeText
           unhealthyThreshold :=
             ← optional get "unhealthy_threshold" d.unhealthyThreshold (decodeNat 32)
           healthyThreshold :=
             ← optional get "healthy_threshold" d.healthyThreshold (decodeNat 32) }

def Observability.decode (v : Value) : Option Observability := do
  let get ← lookup? ["log_level", "metrics_enabled", "metrics_address"] v
  let d : Observability := {}
  return { logLevel := ← optional get "log_level" d.logLevel decodeText
           metricsEnabled := ← optional get "metrics_enabled" d.metricsEnabled decodeBool
           metricsAddress := ← optional get "metrics_address" d.metricsAddress decodeText }

def FilterSpec.decode (v : Value) : Option FilterSpec := do
  let get ← lookup? ["name", "args", "order"] v
  return { name := ← required get "name" decodeText
           args := ← optional get "args" [] decodeArgs
           order := ← optional get "order" 0 decodeInt }

def Balancing.decode (v : Value) : Option Balancing := do
  let name ← decodeName ["round_robin", "weighted_round_robin"] v
  return if name = "round_robin" then .roundRobin else .weightedRoundRobin

def HeaderRule.decode (v : Value) : Option HeaderRule := do
  let get ← lookup? ["name", "values"] v
  return { name := ← required get "name" decodeText
           values := ← required get "values" (decodeList decodeText) }

/-- A percentage, in a table of its own. -/
def decodePercentage (v : Value) : Option Nat := do
  required (← lookup? ["percentage"] v) "percentage" (decodeNat 8)

/-- Ranges of addresses, in a table of their own. -/
def decodeRanges (v : Value) : Option (List String) := do
  required (← lookup? ["ranges"] v) "ranges" (decodeList decodeText)

def GrayRelease.decode (v : Value) : Option GrayRelease := do
  let get ← lookup? ["enabled", "header", "user_id", "ip", "percentage"] v
  return { enabled := ← optional get "enabled" false decodeBool
           header := ← absent? get "header" HeaderRule.decode
           userPercentage := ← absent? get "user_id" decodePercentage
           addressRanges := ← absent? get "ip" decodeRanges
           requestPercentage := ← absent? get "percentage" decodePercentage }

def InstanceSpec.decode (v : Value) : Option InstanceSpec := do
  let get ← lookup? ["service_id", "url", "weight", "healthy", "gray"] v
  return { serviceId := ← required get "service_id" decodeText
           url := ← required get "url" decodeText
           weight := ← optional get "weight" 1 (decodeNat 32)
           healthy := ← optional get "healthy" true decodeBool
           gray := ← optional get "gray" false decodeBool }

def RouteSpec.decode (v : Value) : Option RouteSpec := do
  let get ← lookup? ["id", "path", "load_balancer", "gray_release", "filters", "resilient",
    "instances"] v
  return { id := ← required get "id" decodeText
           path := ← required get "path" decodeText
           balancing := ← optional get "load_balancer" .roundRobin Balancing.decode
           grayRelease := ← absent? get "gray_release" GrayRelease.decode
           filters := ← optional get "filters" [] (decodeList FilterSpec.decode)
           resilient := ← absent? get "resilient" decodeBool
           instances := ← optional get "instances" [] (decodeList InstanceSpec.decode) }

def FallbackSpec.decode (v : Value) : Option FallbackSpec := do
  let get ← lookup? ["service_id", "status", "body", "content_type"] v
  return { serviceId := ← required get "service_id" decodeText
           status := ← optional get "status" 200 (decodeNat 16)
           body := ← required get "body" decodeText
           contentType := ← optional get "content_type" "application/json" decodeText }

/-- All settings. -/
def decode (v : Value) : Option Settings := do
  let get ← lookup? ["listener", "timeouts", "pool", "retries", "resilience", "health_check",
    "observability", "filters", "routes", "fallbacks"] v
  return { listener := ← optional get "listener" {} Listener.decode
           timeouts := ← optional get "timeouts" {} Timeouts.decode
           pool := ← optional get "pool" {} PoolLimits.decode
           retries := ← optional get "retries" {} Retries.decode
           resilience := ← optional get "resilience" {} Resilience.decode
           healthCheck := ← optional get "health_check" {} HealthCheck.decode
           observability := ← optional get "observability" {} Observability.decode
           filters := ← optional get "filters" [] (decodeList FilterSpec.decode)
           routes := ← optional get "routes" [] (decodeList RouteSpec.decode)
           fallbacks := ← optional get "fallbacks" [] (decodeList FallbackSpec.decode) }

end Settings

end HttpGateway
