/-
What can be set, and what holds where nothing is set.

* **Settings** — all settings of a gateway, section by section. The default value of each field
  stands with the field.
-/
import HttpGateway.Number.Floating

namespace HttpGateway.Settings

open Number

/-- Where to listen, and how much to take in. -/
structure Listener where
  bindAddress : String := "0.0.0.0:9999"
  maxInFlight : Nat := 10000
  maxContentLength : Nat := 1048576
deriving DecidableEq, Repr, Inhabited

/-- How long to wait for a backend. -/
structure Timeouts where
  connectMs : Nat := 5000
  writeMs : Nat := 5000
  responseMs : Nat := 5000
  idleSecs : Nat := 30
deriving DecidableEq, Repr, Inhabited

/-- What happens when no connection becomes free in time. -/
inductive AcquireTimeoutAction
  | fail
  | newConnection
deriving DecidableEq, Repr, Inhabited

/-- Limits of the connections to one backend. -/
structure PoolLimits where
  maxConnectionsPerHost : Nat := 100
  maxPendingAcquires : Nat := 1000
  acquireTimeoutMs : Nat := 5000
  acquireTimeoutAction : AcquireTimeoutAction := .fail
  sweepIntervalSecs : Nat := 10
deriving DecidableEq, Repr, Inhabited

/-- How often to try again, and after what delays. A count that is not positive means never. -/
structure Retries where
  maxRetries : Int := -1
  baseDelayMs : Nat := 100
  maxDelayMs : Nat := 2000
deriving DecidableEq, Repr, Inhabited

/-- When a circuit breaker opens and closes. The thresholds are percentages. -/
structure Resilience where
  enabled : Bool := true
  failureRateThreshold : Floating := .finite 50
  slowCallRateThreshold : Floating := .finite 50
  slowCallDurationMs : Nat := 10000
  waitDurationInOpenStateMs : Nat := 60000
  permittedCallsInHalfOpenState : Nat := 5
  minimumNumberOfCalls : Nat := 10
  slidingWindowSecs : Nat := 5
deriving DecidableEq, Repr, Inhabited

/-- Whether and how instances are probed. -/
structure HealthCheck where
  enabled : Bool := false
  intervalSecs : Nat := 10
  timeoutSecs : Nat := 5
  path : String := "/health"
  unhealthyThreshold : Nat := 3
  healthyThreshold : Nat := 2
deriving DecidableEq, Repr, Inhabited

/-- What is logged and measured. -/
structure Observability where
  logLevel : String := "info"
  metricsEnabled : Bool := false
  metricsAddress : String := "0.0.0.0:9090"
deriving DecidableEq, Repr, Inhabited

/-- A filter with its arguments, sorted by name, and its place among the others. -/
structure FilterSpec where
  name : String
  args : List (String × String) := []
  order : Int := 0
deriving DecidableEq, Repr, Inhabited

/-- How requests are spread over the instances of a route. -/
inductive Balancing
  | roundRobin
  | weightedRoundRobin
deriving DecidableEq, Repr, Inhabited

/-- Requests whose named field has one of the values. -/
structure HeaderRule where
  name : String
  values : List String
deriving DecidableEq, Repr, Inhabited

/-- Which requests go to the gray instances of a route. -/
structure GrayRelease where
  enabled : Bool := false
  header : Option HeaderRule := none
  userPercentage : Option Nat := none
  addressRanges : Option (List String) := none
  requestPercentage : Option Nat := none
deriving DecidableEq, Repr, Inhabited

/-- A backend that serves a route. -/
structure InstanceSpec where
  serviceId : String
  url : String
  weight : Nat := 1
  healthy : Bool := true
  gray : Bool := false
deriving DecidableEq, Repr, Inhabited

/-- A path and the instances behind it. -/
structure RouteSpec where
  id : String
  path : String
  balancing : Balancing := .roundRobin
  grayRelease : Option GrayRelease := none
  filters : List FilterSpec := []
  resilient : Option Bool := none
  instances : List InstanceSpec := []
deriving DecidableEq, Repr, Inhabited

/-- The response that stands in for a service. -/
structure FallbackSpec where
  serviceId : String
  status : Nat := 200
  body : String
  contentType : String := "application/json"
deriving DecidableEq, Repr, Inhabited

end Settings

/-- All settings of a gateway. -/
structure Settings where
  listener : Settings.Listener := {}
  timeouts : Settings.Timeouts := {}
  pool : Settings.PoolLimits := {}
  retries : Settings.Retries := {}
  resilience : Settings.Resilience := {}
  healthCheck : Settings.HealthCheck := {}
  observability : Settings.Observability := {}
  filters : List Settings.FilterSpec := []
  routes : List Settings.RouteSpec := []
  fallbacks : List Settings.FallbackSpec := []
deriving DecidableEq, Repr, Inhabited

end HttpGateway
