/-
What becomes of a request before a backend is involved.

* **Routed** — the filters for all requests let a request pass, a route serves its path, and the
  filters of that route let it pass.
* **Addressed** — a healthy instance of that route was selected, and the request for it is prepared.
* **Dispatched** — all that a dispatch can come to, and with what gateway.
* `run_cases`, `begin_cases`, `proceed_cases` — what a gateway comes to with a request, by what
  becomes of it, and what goes on there.
* `gateway_run`, `gateway_begin` — what a request changes of the gateway.
* **Intact** — what no request changes.
* `touched_in_order` — nothing is touched before its turn: balancers only for a request that is
  routed, breakers and backends only where a healthy instance is there, and a backend of a resilient
  route only with a permit.
-/
import HttpGateway.Proofs.Balance.Selection
import HttpGateway.Proofs.Breaker.Registry
import HttpGateway.Proofs.Filter.Chain
import HttpGateway.Proofs.Gateway.Turns

namespace HttpGateway

open Balance Forward Http Request Simulation
open HttpGateway.Filter

namespace Gateway

/-- Filters let a request pass, first those for all requests and then those of its route. `c` and
`memory` are what they leave. -/
inductive Routed (g : Gateway) (now : Instant) (c₀ : Context) (route : Route) (c : Context)
    (memory : FilterMemory) : Prop
  | intro {c₁ m₁} : Passed g.filters now g.globalFilters c₀ g.memory c₁ m₁ →
      g.routes.find? c₁.path = some route →
      Passed g.filters now route.filters { c₁ with route := some route } m₁ c memory →
      Routed g now c₀ route c memory

/-- A request is prepared for an instance of its route. `g'` is the gateway by then. -/
inductive Addressed (g : Gateway) (now : Instant) (c₀ : Context) (route : Route)
    (i : Route.Instance) : Context → Outbound → Gateway → Prop
  | intro {c memory k balancers outbound} : Routed g now c₀ route c memory →
      g.balancers.select route c.fields c.client = (.ok (k, i), balancers) →
      Outbound.ofRequest c.method c.target c.fields c.body route.depth i c.peer c.requestId
        g.timeouts.response.millis.toUInt64 = .ok outbound →
      Addressed g now c₀ route i { c with chosen := some i } outbound { g with memory, balancers }

/-- A filter that runs on all requests, or on those of some route. -/
def Uses (g : Gateway) (spec : Settings.FilterSpec) : Prop :=
  spec ∈ g.globalFilters ∨ ∃ route ∈ g.routes, spec ∈ route.filters

/-- That the name of an instance cannot be sent. -/
def badHost : RequestError := .unexpected "invalid host header: failed to parse header value"

/-- What a dispatch can come to, and with what gateway. -/
inductive Dispatched (g : Gateway) (now : Instant) (c₀ : Context) : Dispatch → Gateway → Prop
  | refused {spec c₁ m₁ c memory e} : g.Uses spec →
      Refuses g.filters now spec c₁ m₁ e c memory →
      Dispatched g now c₀ (.failed c e) { g with memory }
  | brokenDown {memory} : Dispatched g now c₀ .brokenDown { g with memory }
  | unrouted {c memory} : Dispatched g now c₀ (.failed c .noRoute) { g with memory }
  | unserved {route c memory} : Routed g now c₀ route c memory →
      Dispatched g now c₀ (.failed c .noInstance) { g with memory }
  | unsendable {route c c' memory balancers} : Routed g now c₀ route c memory →
      Dispatched g now c₀ (.failed c' badHost) { g with memory, balancers }
  | onward {route i c outbound g'} : Addressed g now c₀ route i c outbound g' →
      Dispatched g now c₀ (g'.permit now c route.resilient i outbound).1
        (g'.permit now c route.resilient i outbound).2

variable {g g' : Gateway} {now : Instant} {c₀ c : Context} {route : Route} {i : Route.Instance}
  {memory : FilterMemory} {outbound : Outbound}

/-- Nothing else than the name of an instance can be wrong with the request for it. -/
theorem ofRequest_error {method requestId : String} {target : Target} {h : Fields}
    {body : ByteArray} {depth : Nat} {timeout : UInt64} {peer : Net.SocketAddress}
    {e : RequestError}
    (hout : Outbound.ofRequest method target h body depth i peer requestId timeout = .error e) :
    e = badHost := by
  unfold Outbound.ofRequest at hout
  split at hout
  · exact (Except.error.inj hout).symm
  · cases hout

/-- A selected instance belongs to the route and is healthy. -/
theorem Addressed.healthy (h : Addressed g now c₀ route i c outbound g') :
    i ∈ route.instances ∧ i.isHealthy = true := by
  cases h with
  | @intro c memory k balancers outbound _ hselect _ =>
    rcases g.balancers.select_cases route c.fields c.client with
      ⟨k', i', b', hselect', hmem, hhealthy⟩ | hnone
    · rw [hselect] at hselect'
      simp only [Prod.mk.injEq, Except.ok.injEq] at hselect'
      obtain ⟨⟨-, rfl⟩, -⟩ := hselect'
      exact ⟨List.mem_of_getElem? hmem, hhealthy⟩
    · simp [hselect] at hnone

/-- Only the filters and the balancers have changed by the time a request is prepared. -/
theorem Addressed.gateway (h : Addressed g now c₀ route i c outbound g') :
    ∃ memory balancers, g' = { g with memory, balancers } := by
  cases h
  exact ⟨_, _, rfl⟩

theorem Addressed.routed (h : Addressed g now c₀ route i c outbound g') :
    ∃ c₁ memory, Routed g now c₀ route c₁ memory := by
  cases h with
  | intro hrouted _ _ => exact ⟨_, _, hrouted⟩

theorem Routed.dispatch (h : Routed g now c₀ route c memory) :
    g.dispatch now c₀ = { g with memory }.toward now c route := by
  cases h with
  | intro hglobal hfind hroute =>
    simp only [Gateway.dispatch, Gateway.runFilters, hglobal.runFilters, hfind, onRoute,
      hroute.runFilters]

theorem Addressed.dispatch (h : Addressed g now c₀ route i c outbound g') :
    g.dispatch now c₀ = g'.permit now c route.resilient i outbound := by
  cases h with
  | intro hrouted hselect hout => simp only [hrouted.dispatch, toward, hselect, hout]

theorem Routed.dispatched (h : Routed g now c₀ route c memory) :
    Dispatched g now c₀ ({ g with memory }.toward now c route).1
      ({ g with memory }.toward now c route).2 := by
  rcases g.balancers.select_cases route c.fields c.client with
    ⟨k, i, balancers, hselect, -, -⟩ | hnone
  · cases hout : Outbound.ofRequest c.method c.target c.fields c.body route.depth i c.peer
        c.requestId g.timeouts.response.millis.toUInt64 with
    | ok outbound =>
      have ha := Addressed.intro h hselect hout
      have hd := Dispatched.onward ha
      rwa [← ha.dispatch, h.dispatch] at hd
    | error e =>
      obtain rfl := ofRequest_error hout
      simp only [toward, hselect, hout]
      exact .unsendable h
  · simp only [toward, hnone]
    exact .unserved h

theorem dispatched (g : Gateway) (now : Instant) (c₀ : Context) :
    Dispatched g now c₀ (g.dispatch now c₀).1 (g.dispatch now c₀).2 := by
  unfold dispatch Gateway.runFilters
  obtain ⟨result, c₁, m₁, hrun⟩ :
      ∃ result c₁ m₁, Filter.runFilters g.filters now g.globalFilters c₀ g.memory
        = (result, c₁, m₁) := ⟨_, _, _, rfl⟩
  simp only [hrun]
  cases runFilters_course hrun with
  | refused hspecs _ hrefuses =>
    exact .refused (.inl (hspecs ▸ List.mem_append_right _ List.mem_cons_self)) hrefuses
  | brokenDown => exact .brokenDown
  | passed hglobal =>
    cases hfind : g.routes.find? c₁.path with
    | none =>
      simp only [hfind]
      exact .unrouted
    | some route =>
      simp only [hfind, onRoute, Gateway.runFilters]
      obtain ⟨result, c, memory, hrun⟩ :
          ∃ result c memory, Filter.runFilters g.filters now route.filters
            { c₁ with route := some route } m₁ = (result, c, memory) := ⟨_, _, _, rfl⟩
      simp only [hrun]
      cases runFilters_course hrun with
      | refused hspecs _ hrefuses =>
        exact .refused (.inr ⟨route, List.mem_of_find?_eq_some hfind,
          hspecs ▸ List.mem_append_right _ List.mem_cons_self⟩) hrefuses
      | brokenDown => exact .brokenDown
      | passed hroute => exact (Routed.intro hglobal hfind hroute).dispatched

/-- Whether the breaker lets a request through decides what becomes of it. A rejection changes
nothing. -/
theorem permit_cases (g : Gateway) (now : Instant) (c : Context) (resilient : Bool)
    (i : Route.Instance) (outbound : Outbound) :
    (resilient = false ∧ g.permit now c resilient i outbound
        = (.forwarded ⟨{ c with forwarded := true }, i, outbound, none, now⟩, g)) ∨
    (resilient = true ∧ ∃ reason, g.breakers.acquire i.serviceId now = (.error reason, g.breakers) ∧
      g.permit now c resilient i outbound
        = (.notPermitted c (Fallbacks.answer g.fallbacks i.serviceId
            (RequestError.breakerOpen i.serviceId).message), g)) ∨
    (resilient = true ∧ ∃ permit breakers,
      g.breakers.acquire i.serviceId now = (.ok permit, breakers) ∧
      g.permit now c resilient i outbound
        = (.forwarded ⟨{ c with forwarded := true }, i, outbound, some permit, now⟩,
          g.withBreakers i.serviceId breakers)) := by
  cases resilient with
  | false => exact .inl ⟨rfl, rfl⟩
  | true =>
    obtain ⟨answer, breakers, hacquire⟩ :
        ∃ answer breakers, g.breakers.acquire i.serviceId now = (answer, breakers) := ⟨_, _, rfl⟩
    cases answer with
    | ok permit =>
      exact .inr (.inr ⟨rfl, permit, breakers, hacquire, by simp [Gateway.permit, hacquire]⟩)
    | error reason =>
      -- The breakers are put back as they were, which is as if they were not put back.
      obtain rfl := Breaker.Registry.acquire_error hacquire
      have hsame : g.withBreakers i.serviceId g.breakers = g := by
        unfold withBreakers
        cases g.breakers.get i.serviceId with
        | none => rfl
        | some b => simp only [if_true]
      exact .inr (.inl ⟨rfl, reason, hacquire, by simp [Gateway.permit, hacquire, hsame]⟩)

/-- What is sent on with a permit is just what was prepared for an instance of a resilient route. -/
theorem passage_of_forwarded {p : Passage} {g₁ : Gateway} {permit : Breaker.Permit}
    (h : g.dispatch now c₀ = (.forwarded p, g₁)) (hp : p.permit = some permit) :
    ∃ route i c outbound g' breakers, g.Addressed now c₀ route i c outbound g' ∧
      route.resilient = true ∧ g.breakers.acquire i.serviceId now = (.ok permit, breakers) ∧
      p = ⟨{ c with forwarded := true }, i, outbound, some permit, now⟩ ∧
      g₁ = g'.withBreakers i.serviceId breakers := by
  have hcases := g.dispatched now c₀
  rw [h] at hcases
  generalize hd : Dispatch.forwarded p = d at hcases
  cases hcases with
  | @onward route i c outbound g' haddressed =>
    refine ⟨route, i, c, outbound, g', ?_⟩
    obtain ⟨memory, balancers, rfl⟩ := haddressed.gateway
    rcases permit_cases { g with memory, balancers } now c route.resilient i outbound with
      ⟨-, hpermit⟩ | ⟨-, reason, -, hpermit⟩ | ⟨hresilient, permit', breakers, hacquire, hpermit⟩
    · rw [hpermit] at hd
      obtain rfl := Dispatch.forwarded.inj hd
      simp at hp
    · rw [hpermit] at hd
      simp at hd
    · rw [hpermit] at hd ⊢
      obtain rfl := Dispatch.forwarded.inj hd
      obtain rfl : permit' = permit := Option.some.inj hp
      exact ⟨breakers, haddressed, hresilient, hacquire, rfl, rfl⟩
  | _ => simp at hd

/-- What is sent on with a permit was prepared for an instance of a resilient route. -/
theorem addressed_of_forwarded {p : Passage} {permit : Breaker.Permit}
    (h : (g.dispatch now c₀).1 = .forwarded p) (hp : p.permit = some permit) :
    ∃ route i c outbound g', g.Addressed now c₀ route i c outbound g' ∧ route.resilient = true ∧
      (g.breakers.acquire i.serviceId now).1 = .ok permit := by
  obtain ⟨route, i, c, outbound, g', breakers, haddressed, hresilient, hacquire, -⟩ :=
    passage_of_forwarded (Prod.ext h rfl) hp
  exact ⟨route, i, c, outbound, g', haddressed, hresilient, congrArg Prod.fst hacquire⟩

/-- Whatever is sent on was prepared for the instance that it is sent to. -/
theorem addressed_of_passage {p : Passage} (h : (g.dispatch now c₀).1 = .forwarded p) :
    ∃ route c g', g.Addressed now c₀ route p.chosen c p.outbound g' := by
  have hcases := g.dispatched now c₀
  rw [h] at hcases
  generalize hd : Dispatch.forwarded p = d at hcases
  generalize (g.dispatch now c₀).2 = g₁ at hcases
  cases hcases with
  | @onward route i c outbound g' haddressed =>
    rcases permit_cases g' now c route.resilient i outbound with
      ⟨-, hpermit⟩ | ⟨-, reason, -, hpermit⟩ | ⟨-, permit, breakers, -, hpermit⟩
    · rw [hpermit] at hd
      obtain rfl := Dispatch.forwarded.inj hd
      exact ⟨route, c, g', haddressed⟩
    · rw [hpermit] at hd
      cases hd
    · rw [hpermit] at hd
      obtain rfl := Dispatch.forwarded.inj hd
      exact ⟨route, c, g', haddressed⟩
  | _ => simp at hd

/-- What a dispatch changes: what filters remember, whose turn it is, and what breakers know. -/
theorem dispatch_frame (g : Gateway) (now : Instant) (c₀ : Context) :
    ∃ d memory balancers breakers metrics,
      g.dispatch now c₀ = (d, { g with memory, balancers, breakers, metrics }) := by
  have hcases := g.dispatched now c₀
  generalize g.dispatch now c₀ = d at hcases ⊢
  obtain ⟨d, g'⟩ := d
  dsimp only at hcases ⊢
  cases hcases with
  | @onward route i c outbound g₁ h =>
    obtain ⟨memory, balancers, rfl⟩ := h.gateway
    rcases permit_cases { g with memory, balancers } now c route.resilient i outbound with
      ⟨-, hpermit⟩ | ⟨-, reason, -, hpermit⟩ | ⟨-, permit, breakers, -, hpermit⟩ <;>
    rw [hpermit] <;>
    exact ⟨_, _, _, _, _, rfl⟩
  | _ => exact ⟨_, _, _, _, _, rfl⟩

end Gateway

namespace Simulation.GatewayRun

variable {r r' : GatewayRun} {request visit : Nat} {incoming : Incoming} {body : ByteArray}

/-! ### What a dispatch leads to -/

section

variable {g : Gateway} {c : Context}

theorem run_brokenDown
    (h : r.gateway.dispatch r.now (incoming.context r.madeId body) = (.brokenDown, g)) :
    r.run request visit incoming body
      = { r with gateway := g, desk := r.desk.start visit }.respond request incoming
          ((r.desk.start visit).finish visit none) := by
  rw [run, h]

theorem run_failed {e : RequestError}
    (h : r.gateway.dispatch r.now (incoming.context r.madeId body) = (.failed c e, g)) :
    r.run request visit incoming body
      = { r with gateway := g, desk := r.desk.start visit }.finish request visit incoming c
          e.response := by
  rw [run, h]

theorem run_notPermitted {answer : Response}
    (h : r.gateway.dispatch r.now (incoming.context r.madeId body) = (.notPermitted c answer, g)) :
    r.run request visit incoming body
      = { r with gateway := g, desk := r.desk.start visit }.finish request visit incoming c
          answer := by
  rw [run, h]

/-- A request that is sent on begins its first attempt as if after a pause. -/
theorem run_forwarded {p : Passage}
    (h : r.gateway.dispatch r.now (incoming.context r.madeId body) = (.forwarded p, g)) :
    r.run request visit incoming body
      = { r with gateway := g, desk := r.desk.start visit }.goOn request
          ⟨visit, incoming, p, 0, .pausing r.now⟩ := by
  rw [run, h]
  rfl

end

/-- A request whose body was read ends at once, or it is sent on. -/
theorem run_cases (r : GatewayRun) (request visit : Nat) (incoming : Incoming) (body : ByteArray) :
    ∃ memory balancers breakers metrics,
      (∃ desk responses, r.run request visit incoming body
        = { r with
            gateway := { r.gateway with memory, balancers, breakers, metrics }
            desk, responses }) ∨
      ∃ p, (r.gateway.dispatch r.now (incoming.context r.madeId body)).1 = .forwarded p ∧
        r.run request visit incoming body = { r with
            gateway := { r.gateway with memory, balancers, breakers, metrics }
            desk := r.desk.start visit }.goOn request ⟨visit, incoming, p, 0, .pausing r.now⟩ := by
  obtain ⟨d, memory, balancers, breakers, metrics, hd⟩ :=
    r.gateway.dispatch_frame r.now (incoming.context r.madeId body)
  cases d with
  | brokenDown =>
    obtain ⟨desk, responses, hrespond⟩ := respond_frame _ request incoming _
    exact ⟨_, _, _, _, .inl ⟨desk, responses, (run_brokenDown hd).trans hrespond⟩⟩
  | failed c e =>
    obtain ⟨metrics, desk, responses, hfinish⟩ :=
      finish_frame _ request visit incoming c e.response
    exact ⟨_, _, _, _, .inl ⟨desk, responses, (run_failed hd).trans hfinish⟩⟩
  | notPermitted c answer =>
    obtain ⟨metrics, desk, responses, hfinish⟩ := finish_frame _ request visit incoming c answer
    exact ⟨_, _, _, _, .inl ⟨desk, responses, (run_notPermitted hd).trans hfinish⟩⟩
  | forwarded p =>
    exact ⟨_, _, _, _, .inr ⟨p, congrArg Prod.fst hd, run_forwarded hd⟩⟩

/-- A request that comes in is answered at the desk, or its body is read and it is let in. -/
theorem begin_cases (r : GatewayRun) (incoming : Incoming) :
    (∃ desk responses, (r.begin incoming).2
      = { r with nextRequest := r.nextRequest + 1, desk, responses }) ∨
    ∃ desk visit body, (r.begin incoming).2
      = { r with nextRequest := r.nextRequest + 1, desk }.run r.nextRequest visit
          (incoming.identified r.madeId) body := by
  have hrespond : ∀ d, ∃ desk responses,
      { r with nextRequest := r.nextRequest + 1 }.respond r.nextRequest
          (incoming.identified r.madeId) d
        = { r with nextRequest := r.nextRequest + 1, desk, responses } :=
    respond_frame _ r.nextRequest _
  unfold begin
  dsimp only
  split
  · exact .inl (hrespond _)
  split
  · exact .inl (hrespond _)
  split
  · exact .inl (hrespond _)
  · exact .inr ⟨_, _, _, rfl⟩

/-- What a request changes of the gateway. What is set stays as it is. -/
theorem gateway_run (r : GatewayRun) (request visit : Nat) (incoming : Incoming)
    (body : ByteArray) : ∃ memory balancers pools breakers metrics,
      (r.run request visit incoming body).gateway
        = { r.gateway with memory, balancers, pools, breakers, metrics } := by
  obtain ⟨memory, balancers, breakers, metrics, ⟨desk, responses, hrun⟩ | ⟨p, -, hrun⟩⟩ :=
    run_cases r request visit incoming body
  · rw [hrun]
    exact ⟨_, _, _, _, _, rfl⟩
  · obtain ⟨pools, breakers, metrics, hgateway⟩ := gateway_goOn _ request _
    rw [hrun, hgateway]
    exact ⟨_, _, _, _, _, rfl⟩

theorem gateway_begin (r : GatewayRun) (incoming : Incoming) :
    ∃ memory balancers pools breakers metrics, (r.begin incoming).2.gateway
      = { r.gateway with memory, balancers, pools, breakers, metrics } := by
  rcases begin_cases r incoming with ⟨desk, responses, hbegin⟩ | ⟨desk, visit, body, hbegin⟩
  · rw [hbegin]
    exact ⟨_, _, _, _, _, rfl⟩
  · rw [hbegin]
    exact gateway_run _ _ visit _ body

/-- What no request changes: the routes with the health of their instances, the filters, what stands
in for services, what is set for probes, and what runs apart. -/
structure Intact (r r' : GatewayRun) : Prop where
  filters : r'.gateway.filters = r.gateway.filters
  fallbacks : r'.gateway.fallbacks = r.gateway.fallbacks
  healthCheck : r'.gateway.healthCheck = r.gateway.healthCheck
  routes : r'.gateway.routes = r.gateway.routes
  chores : r'.chores = r.chores

theorem intact_goOn (r : GatewayRun) (request : Nat) (f : Flight) :
    Intact r (r.goOn request f) := by
  refine goOn_keeps (P := Intact r) r request f ?_
    (fun _ _ h => ⟨h.filters, h.fallbacks, h.healthCheck, h.routes, h.chores⟩) ?_
  · rintro _ ⟨⟩
    exact ⟨rfl, rfl, rfl, rfl, rfl⟩
  · intro r₁ outcome h
    obtain ⟨breakers, metrics, desk, responses, hland⟩ := land_frame r₁ request f.atWork outcome
    rw [hland]
    exact ⟨h.filters, h.fallbacks, h.healthCheck, h.routes, h.chores⟩

theorem intact_run (r : GatewayRun) (request visit : Nat) (incoming : Incoming)
    (body : ByteArray) : Intact r (r.run request visit incoming body) := by
  obtain ⟨memory, balancers, breakers, metrics, ⟨desk, responses, hrun⟩ | ⟨p, -, hrun⟩⟩ :=
    run_cases r request visit incoming body
  · rw [hrun]
    exact ⟨rfl, rfl, rfl, rfl, rfl⟩
  · rw [hrun]
    have h := intact_goOn { r with
      gateway := { r.gateway with memory, balancers, breakers, metrics }
      desk := r.desk.start visit } request ⟨visit, incoming, p, 0, .pausing r.now⟩
    exact ⟨h.filters, h.fallbacks, h.healthCheck, h.routes, h.chores⟩

theorem intact_begin (r : GatewayRun) (incoming : Incoming) :
    Intact r (r.begin incoming).2 := by
  rcases begin_cases r incoming with ⟨desk, responses, hbegin⟩ | ⟨desk, visit, body, hbegin⟩
  · rw [hbegin]
    exact ⟨rfl, rfl, rfl, rfl, rfl⟩
  · rw [hbegin]
    have h := intact_run { r with nextRequest := r.nextRequest + 1, desk } r.nextRequest visit
      (incoming.identified r.madeId) body
    exact ⟨h.filters, h.fallbacks, h.healthCheck, h.routes, h.chores⟩

/-- What goes on is a request on its way that can, or a chore. -/
theorem proceed_cases (h : r.proceed = some r') :
    (∃ request f, (request, f) ∈ r.flights.entries ∧ r.canGoOn f = true ∧
      r' = r.goOn request f) ∨
    ∃ n c, (n, c) ∈ r.chores.entries ∧ r' = r.attend n c := by
  unfold proceed at h
  split at h
  · next request f hfind =>
    have hready := List.find?_some hfind
    exact .inl ⟨request, f, List.mem_of_find?_eq_some hfind, hready, (Option.some.inj h).symm⟩
  · obtain ⟨⟨n, c⟩, hfind, hattend⟩ := Option.map_eq_some_iff.mp h
    exact .inr ⟨n, c, List.mem_of_find?_eq_some hfind, hattend.symm⟩

/-! ### The order -/

/-- What stands behind the filters is as it was: the turns, the breakers, the connections, the
network, and the requests on their way. -/
structure Untouched (r r' : GatewayRun) : Prop where
  balancers : r'.gateway.balancers = r.gateway.balancers
  breakers : r'.gateway.breakers = r.gateway.breakers
  pools : r'.gateway.pools = r.gateway.pools
  network : r'.network = r.network
  flights : r'.flights = r.flights

theorem untouched_finish {gateway : Gateway} {desk : Desk} {c : Context} {answer : Response}
    (hbalancers : gateway.balancers = r.gateway.balancers)
    (hbreakers : gateway.breakers = r.gateway.breakers)
    (hpools : gateway.pools = r.gateway.pools) :
    Untouched r ({ r with gateway, desk }.finish request visit incoming c answer) := by
  obtain ⟨metrics, desk', responses, hfinish⟩ :=
    finish_frame { r with gateway, desk } request visit incoming c answer
  rw [hfinish]
  exact ⟨hbalancers, hbreakers, hpools, rfl, rfl⟩

/-- A request that the gateway breaks down over ends without a response of its own. -/
theorem untouched_respond {gateway : Gateway} {desk : Desk} {d : Option Response × Desk}
    (hbalancers : gateway.balancers = r.gateway.balancers)
    (hbreakers : gateway.breakers = r.gateway.breakers)
    (hpools : gateway.pools = r.gateway.pools) :
    Untouched r ({ r with gateway, desk }.respond request incoming d) := by
  obtain ⟨_ | answer, desk'⟩ := d <;> exact ⟨hbalancers, hbreakers, hpools, rfl, rfl⟩

theorem unregistered_ne_badHost (name : String) : unregistered name ≠ Gateway.badHost := by
  intro h
  have htext := congrArg String.toList (RequestError.unexpected.inj h)
  simp [String.toList_append] at htext

/-- Whatever a request has touched was its turn. -/
structure InOrder (r : GatewayRun) (c₀ : Context) (r' : GatewayRun) : Prop where
  balancers : r'.gateway.balancers ≠ r.gateway.balancers →
    ∃ route c memory, r.gateway.Routed r.now c₀ route c memory
  breakers : r'.gateway.breakers ≠ r.gateway.breakers →
    ∃ route c memory, r.gateway.Routed r.now c₀ route c memory ∧ route.resilient = true ∧
      ∃ i ∈ route.instances, i.isHealthy = true
  backends : ¬ (r'.gateway.pools = r.gateway.pools ∧ r'.network = r.network ∧
      r'.flights = r.flights) →
    ∃ route c memory, r.gateway.Routed r.now c₀ route c memory ∧
      ∃ i ∈ route.instances, i.isHealthy = true ∧ (route.resilient = true →
        ∃ permit, (r.gateway.breakers.acquire i.serviceId r.now).1 = .ok permit)

theorem Untouched.inOrder (h : Untouched r r') (c₀ : Context) : InOrder r c₀ r' where
  balancers hb := absurd h.balancers hb
  breakers hb := absurd h.breakers hb
  backends hb := absurd ⟨h.pools, h.network, h.flights⟩ hb

/-- A request that is routed and ends has used the balancers at most. -/
theorem inOrder_finish {c₀ c₁ : Context} {route : Route} {memory : Filter.FilterMemory}
    (hrouted : r.gateway.Routed r.now c₀ route c₁ memory) {gateway : Gateway} {desk : Desk}
    {c : Context} {answer : Response} (hbreakers : gateway.breakers = r.gateway.breakers)
    (hpools : gateway.pools = r.gateway.pools) :
    InOrder r c₀ ({ r with gateway, desk }.finish request visit incoming c answer) := by
  obtain ⟨metrics, desk', responses, hfinish⟩ :=
    finish_frame { r with gateway, desk } request visit incoming c answer
  rw [hfinish]
  exact ⟨fun _ => ⟨route, c₁, memory, hrouted⟩, fun hb => absurd hbreakers hb,
    fun hb => absurd ⟨hpools, rfl, rfl⟩ hb⟩

/-- A request that is prepared for a healthy instance may use the breaker of its service, and what
the breaker permits may use a backend. -/
theorem inOrder_onward {route : Route} {i : Route.Instance} {c : Context}
    {outbound : Forward.Outbound} {g : Gateway}
    (h : r.gateway.Addressed r.now (incoming.context r.madeId body) route i c outbound g) :
    InOrder r (incoming.context r.madeId body) (r.run request visit incoming body) := by
  obtain ⟨c₁, memory, hrouted⟩ := h.routed
  obtain ⟨hmem, hhealthy⟩ := h.healthy
  have hdispatch := h.dispatch
  obtain ⟨memory', balancers, rfl⟩ := h.gateway
  -- The route is not resilient, or the breaker rejects the request, or it permits it.
  rcases Gateway.permit_cases { r.gateway with memory := memory', balancers } r.now c
      route.resilient i outbound with
    ⟨hplain, hpermit⟩ | ⟨-, reason, -, hpermit⟩ | ⟨hresilient, permit, breakers, hacquire, -⟩
  · rw [run_forwarded (hdispatch.trans hpermit)]
    exact ⟨fun _ => ⟨route, c₁, memory, hrouted⟩,
      fun hb => absurd (breakers_goOn_unpermitted _ request rfl) hb,
      fun _ => ⟨route, c₁, memory, hrouted, i, hmem, hhealthy,
        fun hresilient => absurd (hplain.symm.trans hresilient) Bool.false_ne_true⟩⟩
  · rw [run_notPermitted (hdispatch.trans hpermit)]
    exact inOrder_finish hrouted rfl rfl
  · exact ⟨fun _ => ⟨route, c₁, memory, hrouted⟩,
      fun _ => ⟨route, c₁, memory, hrouted, hresilient, i, hmem, hhealthy⟩,
      fun _ => ⟨route, c₁, memory, hrouted, i, hmem, hhealthy,
        fun _ => ⟨permit, congrArg Prod.fst hacquire⟩⟩⟩

/-- **Nothing is touched before its turn.** The balancers take a turn only for a request that all
filters for all requests let pass, for which there is a route, and which all filters of that route
let pass. Breakers, connections and backends are touched only if the route has a healthy instance as
well, and connections and backends of a resilient route only if the breaker gave a permit. A request
that a filter turns away, that comes to a filter which is not known, that no route serves, or for
which no instance is available, leaves all of them as they were. -/
theorem touched_in_order (r : GatewayRun) (request visit : Nat) (incoming : Incoming)
    (body : ByteArray) :
    let c₀ := incoming.context r.madeId body
    let r' := r.run request visit incoming body
    InOrder r c₀ r' ∧
      ∀ c e, (r.gateway.dispatch r.now c₀).1 = .failed c e →
        (∃ status message, e = .rejected status message) ∨ (∃ name, e = unregistered name) ∨
          e = .noRoute ∨ e = .noInstance →
        Untouched r r' := by
  intro c₀ r'
  obtain ⟨d, g, hd⟩ : ∃ d g, r.gateway.dispatch r.now c₀ = (d, g) := ⟨_, _, rfl⟩
  have hcases := r.gateway.dispatched r.now c₀
  rw [hd] at hcases ⊢
  -- A request that ends early has touched nothing at all.
  suffices h : Untouched r r' ∨ InOrder r c₀ r' ∧ ∀ c e, d = .failed c e → e = Gateway.badHost by
    refine h.elim (fun h => ⟨h.inOrder c₀, fun _ _ _ _ => h⟩)
      fun ⟨horder, hbad⟩ => ⟨horder, fun c e he hcause => ?_⟩
    rw [hbad c e he] at hcause
    rcases hcause with ⟨status, message, h⟩ | ⟨name, h⟩ | h | h
    · simp [Gateway.badHost] at h
    · exact absurd h.symm (unregistered_ne_badHost name)
    · simp [Gateway.badHost] at h
    · simp [Gateway.badHost] at h
  cases hcases with
  | refused =>
    rw [show r' = _ from run_failed hd]
    exact .inl (untouched_finish rfl rfl rfl)
  | brokenDown =>
    rw [show r' = _ from run_brokenDown hd]
    exact .inl (untouched_respond rfl rfl rfl)
  | unrouted =>
    rw [show r' = _ from run_failed hd]
    exact .inl (untouched_finish rfl rfl rfl)
  | unserved =>
    rw [show r' = _ from run_failed hd]
    exact .inl (untouched_finish rfl rfl rfl)
  | unsendable hrouted =>
    rw [show r' = _ from run_failed hd]
    exact .inr ⟨inOrder_finish hrouted rfl rfl, fun c e he => (Dispatch.failed.inj he).2.symm⟩
  | @onward route i c outbound g' h =>
    refine .inr ⟨inOrder_onward h, fun c' e he => ?_⟩
    rcases Gateway.permit_cases g' r.now c route.resilient i outbound with
      ⟨-, hpermit⟩ | ⟨-, reason, -, hpermit⟩ | ⟨-, permit, breakers, -, hpermit⟩ <;>
    simp [hpermit] at he

end Simulation.GatewayRun

end HttpGateway
