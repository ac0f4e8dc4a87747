/-
Instances of services.

* **Instance** — a backend with its base URL, its weight and its health.
* **Instance.ofSpec** — reads the URL, which needs a host and a port.
* **Health.succeed**, **Health.fail** — reports of checks. The state changes only after as many
  reports of one kind in a row as the threshold asks for.
-/
import HttpGateway.Settings.Schema
import HttpGateway.Url.Basic

namespace HttpGateway.Route

open Settings Text

/-- What is known about an instance. -/
inductive HealthState
  | unknown
  | healthy
  | unhealthy
deriving DecidableEq, Repr, Inhabited

/-- The state with a given code; a code without a state of its own says nothing. -/
def HealthState.ofCode (n : Nat) : HealthState :=
  if n = 1 then .healthy else if n = 2 then .unhealthy else .unknown

/-- The state of an instance, and how many reports in a row spoke for and against it. -/
structure Health where
  state : HealthState
  failures : Nat := 0
  successes : Nat := 0
deriving DecidableEq, Repr, Inhabited

namespace Health

/-- A state given from outside. -/
def given (healthy : Bool) : Health := ⟨if healthy then .healthy else .unhealthy, 0, 0⟩

/-- An instance of which nothing is known counts as healthy. -/
def isHealthy (h : Health) : Bool := h.state ≠ .unhealthy

/-- A check that succeeded; tells whether the instance has just become healthy. -/
def succeed (h : Health) (threshold : Nat) : Bool × Health :=
  if h.state = .healthy then (false, { h with failures := 0 })
  else
    let n := h.successes + 1
    if threshold ≤ n then (true, ⟨.healthy, 0, n⟩) else (false, ⟨h.state, 0, n⟩)

/-- A check that failed; tells whether the instance has just become unhealthy. -/
def fail (h : Health) (threshold : Nat) : Bool × Health :=
  if h.state = .unhealthy then (false, { h with successes := 0 })
  else
    let n := h.failures + 1
    if threshold ≤ n then (true, ⟨.unhealthy, n, 0⟩) else (false, ⟨h.state, n, 0⟩)

end Health

/-- A backend that serves a route. -/
structure Instance where
  serviceId : String
  url : Url
  host : String
  port : Nat
  weight : Nat
  gray : Bool
  health : Health
deriving DecidableEq, Repr

/-- A URL that no instance can have. -/
structure InstanceError where
  url : String
  reason : String
deriving DecidableEq, Repr, Inhabited

/-- The wording of the error. -/
def InstanceError.message (e : InstanceError) : String :=
  "invalid instance url '" ++ e.url ++ "': " ++ e.reason

namespace Instance

/-- Reads the URL of an instance. A weight of zero counts as one. -/
def ofSpec (spec : InstanceSpec) : Except InstanceError Instance :=
  match Url.parse spec.url.toList with
  | .error e => .error ⟨spec.url, e.message⟩
  | .ok url =>
    match url.host with
    | none => .error ⟨spec.url, "missing host"⟩
    | some host =>
      match url.effectivePort? with
      | none => .error ⟨spec.url, "missing port"⟩
      | some port =>
        .ok { serviceId := spec.serviceId
              url
              host := String.ofList host.text
              port
              weight := max spec.weight 1
              gray := spec.gray
              health := .given spec.healthy }

/-- Host and port, by which connections are kept. -/
def authority (i : Instance) : String := i.host ++ ":" ++ toString i.port

/-- The `Host` field of requests: with the port only where it is not the default one. -/
def hostField (i : Instance) : String :=
  match i.url.port with
  | some port => i.host ++ ":" ++ toString port
  | none => i.host

/-- The name of an instance in logs. -/
def text (i : Instance) : String := i.serviceId ++ "@" ++ String.ofList i.url.text

def isHealthy (i : Instance) : Bool := i.health.isHealthy

end Instance

end HttpGateway.Route
