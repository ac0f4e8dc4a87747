/-
The way of a request through the gateway.

The filters for all requests come first, then the route is found, then come its filters, and an
instance is selected. For a route that is resilient, the breaker of the service then has to permit
the call. Only after all that is a backend involved.

* **Gateway.dispatch** — all up to that point: the request is answered, or it is on its way to an
  instance.
* **Gateway.conclude** — the answer to a request that was on its way. The breaker that permitted it
  learns of the outcome of all attempts together, once.
* **Gateway.deliver** — puts the answer in the slot of the request.
-/
import HttpGateway.Forward.Outbound
import HttpGateway.Gateway.Basic

namespace HttpGateway

open Forward Http Request

/-- A request on its way to an instance, since when, and with what permit. -/
structure Passage where
  context : Context
  chosen : Route.Instance
  outbound : Outbound
  permit : Option Breaker.Permit
  began : Instant

/-- What becomes of a request before a backend is involved. -/
inductive Dispatch
  | failed (c : Context) (e : RequestError)
  | brokenDown
  | notPermitted (c : Context) (r : Response)
  | forwarded (p : Passage)

namespace Gateway

/-- Runs filters on a request. -/
def runFilters (g : Gateway) (now : Instant) (specs : List Settings.FilterSpec) (c : Context) :
    Filter.ChainResult × Context × Gateway :=
  let (result, c, memory) := Filter.runFilters g.filters now specs c g.memory
  (result, c, { g with memory })

/-- Asks the breaker of the service for a permit, where the route is resilient. -/
def permit (g : Gateway) (now : Instant) (c : Context) (resilient : Bool) (i : Route.Instance)
    (outbound : Outbound) : Dispatch × Gateway :=
  if resilient then
    let (answer, breakers) := g.breakers.acquire i.serviceId now
    let g := g.withBreakers i.serviceId breakers
    match answer with
    | .error _ =>
      (.notPermitted c
        (Fallbacks.answer g.fallbacks i.serviceId (RequestError.breakerOpen i.serviceId).message), g)
    | .ok permit => (.forwarded ⟨{ c with forwarded := true }, i, outbound, some permit, now⟩, g)
  else (.forwarded ⟨{ c with forwarded := true }, i, outbound, none, now⟩, g)

/-- Selects an instance of a route and prepares the request for it. -/
def toward (g : Gateway) (now : Instant) (c : Context) (r : Route) : Dispatch × Gateway :=
  let (selected, balancers) := g.balancers.select r c.fields c.client
  let g := { g with balancers }
  match selected with
  | .error e => (.failed c e, g)
  | .ok (_, i) =>
    let c := { c with chosen := some i }
    match Outbound.ofRequest c.method c.target c.fields c.body r.depth i c.peer c.requestId
      g.timeouts.response.millis.toUInt64 with
    | .error e => (.failed c e, g)
    | .ok outbound => g.permit now c r.resilient i outbound

/-- A request on its route. -/
def onRoute (g : Gateway) (now : Instant) (c : Context) (r : Route) : Dispatch × Gateway :=
  match g.runFilters now r.filters { c with route := some r } with
  | (.failed e, c, g) => (.failed c e, g)
  | (.brokenDown, _, g) => (.brokenDown, g)
  | (.passed, c, g) => g.toward now c r

/-- A request that has just come in. -/
def dispatch (g : Gateway) (now : Instant) (c : Context) : Dispatch × Gateway :=
  match g.runFilters now g.globalFilters c with
  | (.failed e, c, g) => (.failed c e, g)
  | (.brokenDown, _, g) => (.brokenDown, g)
  | (.passed, c, g) =>
    match g.routes.find? c.path with
    | none => (.failed c .noRoute, g)
    | some r => g.onRoute now c r

/-- The answer to a request that was on its way, once the outcome is known. -/
def conclude (g : Gateway) (p : Passage) (now : Instant)
    (outcome : Except RequestError Response) : Response × Gateway :=
  match p.permit with
  | none =>
    match outcome with
    | .ok r => (r.forClient, g)
    | .error e => (e.response, g)
  | some permit =>
    let service := p.chosen.serviceId
    let breakers := g.breakers.record permit now outcome.isOk (now - p.began)
    let g := g.withBreakers service breakers
    match outcome with
    | .ok r => (r.forClient, g)
    | .error e =>
      (Fallbacks.answer g.fallbacks service ("Service call failed: " ++ e.message), g)

/-- The name under which the route of a request is measured. -/
def routeLabel (c : Context) : String := (c.route.map (·.id)).getD "none"

/-- Puts the answer to a request in its slot. It is measured if it counts. -/
def deliver (g : Gateway) (c : Context) (r : Response) : Context × Gateway :=
  let (wrote, c) := c.respond r
  (c, if wrote then { g with metrics := g.metrics.request c.method r.status.code (routeLabel c) }
    else g)

/-- The time after which there is another attempt, if there is one. -/
def pause? (g : Gateway) (attempt : Nat) (outcome : Except RequestError Response) :
    Option Instant :=
  g.retries.pause? attempt outcome

end Gateway

end HttpGateway
