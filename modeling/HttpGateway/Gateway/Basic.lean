/-
The gateway: everything that it goes by and everything that it remembers.

* **Gateway** — routes, filters, turns of the balancers, breakers, fallbacks, pools and measurements.
* **Gateway.ofSettings** — a gateway as it is set, with nothing to remember yet.
* The rest changes a running gateway: its routes, the health of instances, breakers and fallbacks.
-/
import HttpGateway.Balance.Selector
import HttpGateway.Breaker.Registry
import HttpGateway.Fallback
import HttpGateway.Filter.Chain
import HttpGateway.Observe.Metrics
import HttpGateway.Pool.Registry
import HttpGateway.Retry.Policy
import HttpGateway.Route.Table

namespace HttpGateway

open Balance Observe Route Settings

/-- A gateway. -/
structure Gateway where
  filters : Filter.Registry
  globalFilters : List FilterSpec
  timeouts : BackendTimeouts
  retries : Retry.Policy
  mostBytes : Nat
  resilientByDefault : Bool
  healthCheck : Settings.HealthCheck
  routes : Table
  installed : Nat
  balancers : Balancers
  breakers : Breaker.Registry
  fallbacks : Fallbacks
  pools : Pools
  memory : Filter.FilterMemory
  metrics : Metrics

namespace Gateway

/-- Gives each route the number of its installation. -/
def numbered (t : Table) : Table := t.zipIdx.map fun (r, n) => { r with installation := n }

/-- A gateway as it is set. `jitter` varies the delays between attempts. -/
def ofSettings (s : Settings) (filters : Filter.Registry) (jitter : Nat → Nat) :
    Except InstanceError Gateway := do
  let routes ← Table.ofSpecs s.routes s.resilience.enabled
  let timeouts := BackendTimeouts.ofSettings s.timeouts
  return { filters
           globalFilters := inOrder s.filters
           timeouts
           retries := .ofSettings s.retries jitter
           mostBytes := s.listener.maxContentLength
           resilientByDefault := s.resilience.enabled
           healthCheck := s.healthCheck
           routes := numbered routes
           installed := routes.length
           balancers := .empty
           breakers := .empty (.ofSettings s.resilience)
           fallbacks := .ofSpecs s.fallbacks
           pools := { limits := .ofSettings s.pool timeouts }
           memory := {}
           metrics := .empty }

/-- Puts a route in the place of the one with its id, or at the end. -/
def addRoute (g : Gateway) (spec : RouteSpec) : Except InstanceError Gateway := do
  let r ← Route.ofSpec spec g.resilientByDefault
  return { g with
    routes := g.routes.add { r with installation := g.installed }
    installed := g.installed + 1 }

/-- Takes a route out; tells whether there was one. -/
def removeRoute (g : Gateway) (id : String) : Bool × Gateway :=
  let (removed, routes) := g.routes.remove id
  (removed, { g with routes })

/-- Changes the health of an instance, by the places of its route and of the instance there. -/
def modifyHealth (g : Gateway) (route place : Nat) (f : Health → Health) : Gateway :=
  { g with routes := g.routes.modify route (·.modifyHealth place f) }

/-- Gives an instance a state of health from outside. -/
def setHealth (g : Gateway) (route place : Nat) (healthy : Bool) : Gateway :=
  g.modifyHealth route place fun _ => .given healthy

/-- Replaces the breakers after something was done to that of a service. A change of its state is
measured. -/
def withBreakers (g : Gateway) (service : String) (breakers : Breaker.Registry) : Gateway :=
  let metrics := match g.breakers.get service, breakers.get service with
    | some before, some after =>
      if before.state = after.state then g.metrics
      else g.metrics.transition service after.state
    | _, _ => g.metrics
  { g with breakers, metrics }

/-- Does something by hand to the breaker of a service; tells whether it has one. -/
def onBreaker (g : Gateway) (service : String)
    (f : Breaker.Registry → Bool × Breaker.Registry) : Bool × Gateway :=
  let (done, breakers) := f g.breakers
  (done, g.withBreakers service breakers)

/-- Makes the breaker of a service, if it has none; tells its state. -/
def createBreaker (g : Gateway) (service : String) (now : Instant) : Breaker.State × Gateway :=
  let (b, breakers) := g.breakers.ensure service now
  (b.breaker.state, { g with breakers })

/-- Discards the idle connections that can no longer be used; tells how many. -/
def evict (g : Gateway) (now : Instant) : Nat × Gateway :=
  let (n, pools) := g.pools.evict now
  (n, { g with pools })

/-- Registers a fallback. -/
def registerFallback (g : Gateway) (spec : FallbackSpec) : Gateway :=
  { g with fallbacks := g.fallbacks.register spec }

/-- Takes the fallback of a service away; tells whether there was one. -/
def removeFallback (g : Gateway) (service : String) : Bool × Gateway :=
  let (removed, fallbacks) := Fallbacks.remove g.fallbacks service
  (removed, { g with fallbacks })

end Gateway

end HttpGateway
