/-
Settings that make no sense.

* **Problem** — a field and what is wrong with it.
* **Settings.problems** — all problems, in the order of the sections. Settings are accepted if there
  are none. Filters have to be among the known ones.
-/
import HttpGateway.Http.Field
import HttpGateway.Http.Status
import HttpGateway.Net.Address
import HttpGateway.Settings.Schema
import HttpGateway.Url.Basic

namespace HttpGateway

open Http Net Number

namespace Settings

/-- A field and what is wrong with it. -/
structure Problem where
  field : String
  message : String
deriving DecidableEq, Repr, Inhabited

/-- A problem on one line. -/
def Problem.text (p : Problem) : String := p.field ++ ": " ++ p.message

/-- A problem that there is under a condition. -/
def problemIf (condition : Bool) (field message : String) : List Problem :=
  if condition then [⟨field, message⟩] else []

/-- A number that has to be positive. -/
def positive (field : String) (n : Nat) : List Problem := problemIf (n == 0) field "must be > 0"

/-- A percentage that has to be positive. -/
def threshold (field : String) (x : Floating) : List Problem :=
  problemIf (!(Floating.lt (.finite 0) x && x.le (.finite 100))) field "must be in (0, 100]"

/-- The name of an element of a list. -/
def element (field : String) (i : Nat) : String := field ++ "[" ++ toString i ++ "]"

/-- The problems of the elements of a list, each with its name. -/
def eachProblem {α : Type} (field : String) (xs : List α) (f : String → α → List Problem) :
    List Problem :=
  xs.zipIdx.flatMap fun (x, i) => f (element field i) x

def Listener.problems (s : Listener) : List Problem :=
  problemIf (SocketAddress.parse? s.bindAddress.toList).isNone "listener.bind_address"
      ("'" ++ s.bindAddress ++ "' is not a socket address") ++
    positive "listener.max_in_flight" s.maxInFlight

def Timeouts.problems (s : Timeouts) : List Problem :=
  positive "timeouts.connect_ms" s.connectMs ++
    positive "timeouts.write_ms" s.writeMs ++
    positive "timeouts.response_ms" s.responseMs ++
    positive "timeouts.idle_secs" s.idleSecs

def PoolLimits.problems (s : PoolLimits) : List Problem :=
  positive "pool.acquire_timeout_ms" s.acquireTimeoutMs ++
    positive "pool.sweep_interval_secs" s.sweepIntervalSecs ++
    positive "pool.max_connections_per_host" s.maxConnectionsPerHost

def Retries.problems (s : Retries) : List Problem :=
  problemIf (s.maxDelayMs < s.baseDelayMs) "retries.max_delay_ms"
    "must not be smaller than base_delay_ms"

def Resilience.problems (s : Resilience) : List Problem :=
  threshold "resilience.failure_rate_threshold" s.failureRateThreshold ++
    threshold "resilience.slow_call_rate_threshold" s.slowCallRateThreshold ++
    positive "resilience.sliding_window_secs" s.slidingWindowSecs ++
    positive "resilience.permitted_calls_in_half_open_state" s.permittedCallsInHalfOpenState

/-- Filters have to be known. -/
def filterProblems (known : List String) (field : String) (filters : List FilterSpec) :
    List Problem :=
  eachProblem field filters fun field f =>
    problemIf (!known.contains f.name) (field ++ ".name") ("unknown filter '" ++ f.name ++ "'")

/-- A URL has to be one with a host, and of the one scheme in which requests are sent. -/
def urlProblems (field url : String) : List Problem :=
  match Url.parse url.toList with
  | .error e => [⟨field, e.message⟩]
  | .ok u =>
    if u.scheme ≠ "http".toList then
      [⟨field, "unsupported scheme '" ++ String.ofList u.scheme ++ "'"⟩]
    else problemIf u.host.isNone field "missing host"

def InstanceSpec.problems (field : String) (s : InstanceSpec) : List Problem :=
  problemIf s.serviceId.isEmpty (field ++ ".service_id") "must not be empty" ++
    problemIf (s.weight == 0) (field ++ ".weight") "must be >= 1" ++
    urlProblems (field ++ ".url") s.url

/-- A percentage of users or requests. -/
def shareProblems (field : String) (share : Option Nat) : List Problem :=
  problemIf (100 < share.getD 0) (field ++ ".percentage") "must be <= 100"

def GrayRelease.problems (field : String) (s : GrayRelease) : List Problem :=
  shareProblems (field ++ ".user_id") s.userPercentage ++
    shareProblems (field ++ ".percentage") s.requestPercentage ++
    match s.header with
    | some rule =>
      problemIf (fieldName? rule.name).isNone (field ++ ".header.name")
        ("'" ++ rule.name ++ "' is not a valid header name")
    | none => []

/-- Ids have to be there, and different from those before. -/
def idProblems (field : String) (earlier : List String) (id : String) : List Problem :=
  if id.isEmpty then [⟨field ++ ".id", "must not be empty"⟩]
  else problemIf (earlier.contains id) (field ++ ".id") ("duplicate route id '" ++ id ++ "'")

def RouteSpec.problems (known earlier : List String) (field : String) (s : RouteSpec) :
    List Problem :=
  idProblems field earlier s.id ++
    problemIf (s.path.toList.head? != some '/') (field ++ ".path") "must start with '/'" ++
    problemIf s.instances.isEmpty (field ++ ".instances") "at least one instance is required" ++
    eachProblem (field ++ ".instances") s.instances InstanceSpec.problems ++
    (match s.grayRelease with
      | some gray => gray.problems (field ++ ".gray_release")
      | none => []) ++
    filterProblems known (field ++ ".filters") s.filters

def FallbackSpec.problems (field : String) (s : FallbackSpec) : List Problem :=
  problemIf (Status.ofCode? s.status).isNone (field ++ ".status")
    (toString s.status ++ " is not a valid status code")

end Settings

namespace Settings

/-- The problems of the routes. Each id is compared with those before it. -/
def routeProblems (known : List String) (routes : List RouteSpec) : List Problem :=
  routes.zipIdx.flatMap fun (r, i) =>
    r.problems known ((routes.take i).map (·.id)) (element "routes" i)

/-- All problems. -/
def problems (s : Settings) (known : List String) : List Problem :=
  s.listener.problems ++ s.timeouts.problems ++ s.pool.problems ++ s.retries.problems ++
    s.resilience.problems ++ filterProblems known "filters" s.filters ++
    routeProblems known s.routes ++
    eachProblem "fallbacks" s.fallbacks FallbackSpec.problems

end Settings

end HttpGateway
