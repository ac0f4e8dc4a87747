/-
What the gateway measures.

* **Series** — a name with labels.
* **Metrics** — how often each series was counted, or the value that it has.
-/
import HttpGateway.Breaker.Basic
import HttpGateway.Keyed

namespace HttpGateway.Observe

/-- A name with labels, in the order in which they are written. -/
structure Series where
  name : String
  labels : List (String × String)
deriving DecidableEq, Repr

/-- The written form of a series. -/
def Series.text (s : Series) : String :=
  s.name ++ "\x7b" ++ ",".intercalate (s.labels.map fun (k, v) => k ++ "=" ++ v) ++ "\x7d"

/-- The value of each series. -/
abbrev Metrics := Keyed Series Nat

namespace Metrics

/-- Counts a series once more. -/
def count (m : Metrics) (s : Series) : Metrics := m.set s (m.findD s 0 + 1)

/-- A request that was answered: once in the count of requests and once among the durations. -/
def request (m : Metrics) (method : String) (status : Nat) (route : String) : Metrics :=
  (m.count ⟨"gateway_requests_total",
      [("method", method), ("status", toString status), ("route", route)]⟩).count
    ⟨"gateway_request_duration_seconds", [("method", method), ("route", route)]⟩

/-- An attempt to reach a backend. -/
def attempt (m : Metrics) (backend : String) : Metrics :=
  m.count ⟨"gateway_backend_attempts_total", [("backend", backend)]⟩

/-- A change of state of a breaker. -/
def transition (m : Metrics) (breaker : String) (state : Breaker.State) : Metrics :=
  m.count ⟨"gateway_circuit_breaker_transitions_total",
    [("breaker", breaker), ("state", state.text)]⟩

/-- A connection that was opened. -/
def connection (m : Metrics) (backend : String) : Metrics :=
  m.count ⟨"gateway_pool_connections_created_total", [("backend", backend)]⟩

/-- The health of an instance. -/
def health (m : Metrics) (name : String) (healthy : Bool) : Metrics :=
  m.set ⟨"gateway_instance_health", [("instance", name)]⟩ healthy.toNat

end Metrics

/-- Which log messages are kept, for a level. -/
def logDirectives (level : String) : String :=
  "api_gateway=" ++ level ++ ",tower_http=" ++ level ++ ",warn"

end HttpGateway.Observe
