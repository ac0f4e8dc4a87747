/-
Requests that come to a filter which is not registered.

* **Resolves** — all filters that a gateway runs are registered, but for some names.
* **SameRules** — two gateways handle requests by the same rules. That is all that the above depends
  on.
* `Resolves.dispatch` — a request that fails for want of a filter has come to one of those names.
* `verdict?_ne_unregistered` — no attempt of a request that is sent on fails for want of a filter.
* **InService** — what becomes of a gateway: requests come in, all goes on that can, and its routes
  are changed by hand.
* `InService.keeps` — what the rules decide holds as long as a gateway is at work, if those who put
  routes in and take them out leave it.
* `InService.serving` — if all filters were registered at the start, they always are, but for those
  of routes that were put in by hand.

What is registered never changes at a running gateway. So it is enough to know which filters it
runs, and that changes with the table alone: nothing that requests, probes or breakers do to a route
touches its filters.
-/
import HttpGateway.Proofs.Gateway.Backends
import HttpGateway.Proofs.Route.Building
import HttpGateway.Proofs.Route.Table

namespace HttpGateway

open Forward Http Request Route Settings Simulation
open HttpGateway.Filter

/-! ### Filters that are there -/

namespace Gateway

variable {g g' : Gateway} {now : Instant} {c₀ c : Context} {spec : FilterSpec}
  {routeSpec : RouteSpec} {names names' : List String} {name : String}

/-- All filters that a gateway runs are registered, but for those with some names. -/
def Resolves (g : Gateway) (names : List String) : Prop :=
  ∀ spec, g.Uses spec → (g.filters.find spec.name).isSome = true ∨ spec.name ∈ names

/-- A change of what a gateway runs, of which no more has to be known than what it brings. -/
theorem Resolves.of_uses (h : g.Resolves names) (hfilters : g'.filters = g.filters)
    (hnames : names ⊆ names') (huses : ∀ spec, g'.Uses spec → g.Uses spec ∨ spec.name ∈ names') :
    g'.Resolves names' := by
  intro spec hspec
  rw [hfilters]
  rcases huses spec hspec with hold | hnew
  · exact (h spec hold).imp_right fun hname => hnames hname
  · exact .inr hnew

/-- What runs depends on the filters of the routes alone. -/
theorem uses_iff : g.Uses spec ↔
    spec ∈ g.globalFilters ∨ ∃ filters ∈ g.routes.map (·.filters), spec ∈ filters := by
  simp [Uses]

/-- Requests are handled by the same rules: what is registered, the filters for all requests, and
where routes are and with which filters. -/
structure SameRules (g g' : Gateway) : Prop where
  filters : g'.filters = g.filters
  global : g'.globalFilters = g.globalFilters
  routes : g'.routes.map (fun r => (r.id, r.path, r.filters))
    = g.routes.map fun r => (r.id, r.path, r.filters)

theorem Resolves.congr (h : g.Resolves names) (hsame : g.SameRules g') : g'.Resolves names := by
  have hroutes : g'.routes.map (·.filters) = g.routes.map (·.filters) := by
    have hfilters := congrArg (List.map fun rule => rule.2.2) hsame.routes
    rwa [List.map_map, List.map_map] at hfilters
  refine h.of_uses hsame.filters (List.Subset.refl _) fun spec hspec => .inl ?_
  rw [uses_iff, ← hsame.global, ← hroutes, ← uses_iff]
  exact hspec

/-- What a route that is put in changes. It carries the filters of its settings. -/
theorem addRoute_frame (h : g.addRoute routeSpec = .ok g') :
    ∃ r : Route, ∃ installed, r.Carries routeSpec ∧
      g' = { g with routes := g.routes.add r, installed } := by
  unfold addRoute at h
  cases hr : Route.ofSpec routeSpec g.resilientByDefault with
  | error e =>
    rw [hr] at h
    cases h
  | ok r =>
    rw [hr] at h
    cases h
    obtain ⟨hid, hpath, hfilters⟩ := Route.carries_of_ofSpec hr
    exact ⟨{ r with installation := g.installed }, _, ⟨hid, hpath, hfilters⟩, rfl⟩

/-- A route that is put in brings its own filters and no others. -/
theorem Resolves.addRoute (h : g.Resolves names) (hadd : g.addRoute routeSpec = .ok g') :
    g'.Resolves (names ++ routeSpec.filters.map (·.name)) := by
  obtain ⟨r, installed, hcarries, rfl⟩ := addRoute_frame hadd
  refine h.of_uses rfl (List.subset_append_left ..) fun spec hspec => ?_
  -- A route of the table is the one that was put in, or was there before.
  rcases hspec with hglobal | ⟨route, hroute, hmem⟩
  · exact .inl (.inl hglobal)
  · rcases Table.mem_add hroute with rfl | hold
    · rw [hcarries.filters] at hmem
      have hbrought : spec ∈ routeSpec.filters := List.mem_mergeSort.mp hmem
      exact .inr (List.mem_append_right _ (List.mem_map_of_mem hbrought))
    · exact .inl (.inr ⟨route, hold, hmem⟩)

theorem Resolves.removeRoute (h : g.Resolves names) (id : String) :
    (g.removeRoute id).2.Resolves names := by
  refine h.of_uses rfl (List.Subset.refl _) fun spec hspec => .inl ?_
  rcases hspec with hglobal | ⟨route, hroute, hmem⟩
  · exact .inl hglobal
  · exact .inr ⟨route, List.mem_of_mem_filter hroute, hmem⟩

theorem unregistered_inj {a b : String} (h : unregistered a = unregistered b) : a = b := by
  have htext := congrArg String.toList (RequestError.unexpected.inj h)
  simpa [String.toList_append, String.toList_inj] using htext

/-- A request that fails for want of a filter has come to one that the gateway runs and that is not
registered. -/
theorem Resolves.dispatch (h : g.Resolves names)
    (hd : (g.dispatch now c₀).1 = .failed c (unregistered name)) : name ∈ names := by
  have hcases := g.dispatched now c₀
  generalize g.dispatch now c₀ = d at hd hcases
  obtain ⟨d, g'⟩ := d
  obtain rfl : d = .failed c (unregistered name) := hd
  generalize he : Dispatch.failed c (unregistered name) = d' at hcases
  cases hcases with
  | refused huses hrefuses =>
    obtain ⟨rfl, rfl⟩ := Dispatch.failed.inj he
    generalize hname : unregistered name = e at hrefuses
    cases hrefuses with
    | unknown hfind =>
      obtain rfl := unregistered_inj hname
      exact (h _ huses).resolve_left (by simp [hfind])
    | turnedAway => cases hname
  | unsendable =>
    exact absurd (Dispatch.failed.inj he).2 (GatewayRun.unregistered_ne_badHost name)
  | @onward route i c' outbound g₁ =>
    -- Whether or not the breaker lets it through, a prepared request does not fail.
    rcases permit_cases g₁ now c' route.resilient i outbound with
      ⟨-, hpermit⟩ | ⟨-, reason, -, hpermit⟩ | ⟨-, permit, breakers, -, hpermit⟩ <;>
    simp [hpermit] at he
  | _ => cases he

end Gateway

/-! ### Attempts -/

theorem readBody_ne_unexpected (x : Terms) (status : Status) (fields : Fields) (body : ByteArray)
    (since : Instant) (s : Schedule) (reason : String) :
    (readBody x status fields body since s).outcome ≠ .error (.unexpected reason) := by
  have hlimit : ∀ since, (x.bodyLimit since).2 ≠ .unexpected reason := by
    intro since
    unfold Terms.bodyLimit
    split <;> simp
  -- By what comes next: whatever ends the reading is a limit, the size, or the backend.
  fun_induction readBody x status fields body since s <;> simp_all [Terms.tooLarge]

theorem awaitHead_ne_unexpected (x : Terms) (signal : WriteSignal) (s : Schedule)
    (reason : String) : (awaitHead x signal s).outcome ≠ .error (.unexpected reason) := by
  have hlimit : ∀ signal, (x.headLimit signal).2 ≠ .unexpected reason := by
    intro signal
    unfold Terms.headLimit
    split <;> simp
  fun_induction awaitHead x signal s with
  | case6 => exact readBody_ne_unexpected _ _ _ _ _ _ _
  | case7 =>
    -- A connection that breaks is one that could not be read, or not be written to.
    show Except.error (ite _ _ _) ≠ Except.error _
    split <;> simp
  | _ => simp_all [Terms.tooLarge]

/-- A request that cannot be sent does not fail for want of a filter. -/
theorem target_ne_unregistered (outbound : Outbound) (name : String) :
    outbound.target ≠ .error (unregistered name) := by
  unfold Outbound.target
  intro h
  split at h
  · cases h
  · have htext := congrArg String.toList (RequestError.unexpected.inj (Except.error.inj h))
    simp [String.toList_append] at htext

/-- An attempt on a connection fails for the backend or for the request, and for no filter. -/
theorem attempt_ne_unregistered (x : Terms) (outbound : Outbound) (s : Schedule) (name : String) :
    attempt x outbound s ≠ .error (unregistered name) := by
  unfold attempt
  cases htarget : outbound.target with
  | error e =>
    intro h
    have he : e = unregistered name := Except.error.inj h
    exact target_ne_unregistered outbound name (he ▸ htarget)
  | ok target => exact awaitHead_ne_unexpected x .waiting s _

/-- Whoever has waited too long is told that the pool is exhausted. -/
theorem Pool.expire_told {p : Pool} {ticket : Nat} {e : RequestError}
    (h : (p.expire ticket).1 = some e) : e = p.exhausted := by
  unfold Pool.expire at h
  split at h
  · dsimp only at h
    split at h
    · exact (Option.some.inj h).symm
    · cases h
  · cases h

namespace Simulation

/-! An attempt that gets no connection fails for the backend or for its pool. -/

theorem Site.connect_ne_unexpected (s : Site) (ticket : Nat) (now : Instant) (reason : String) :
    (s.connect ticket now).1 ≠ .failed (.unexpected reason) := by
  unfold Site.connect
  dsimp only
  split <;> simp [Site.giveUp]

theorem Site.supply_ne_unexpected (s : Site) (ticket : Nat) (now : Instant) (reason : String) :
    (s.supply ticket now).1 ≠ .failed (.unexpected reason) := by
  unfold Site.supply
  split
  · simp
  · exact connect_ne_unexpected _ _ _ _

theorem Site.start_ne_unexpected (s : Site) (now : Instant) (reason : String) :
    (s.start now).1 ≠ .failed (.unexpected reason) := by
  unfold Site.start
  split
  · exact supply_ne_unexpected _ _ _ _
  · simp
  · simp [Pool.exhausted]

theorem Site.resume_ne_unexpected (s : Site) (now : Instant) (c : Connecting) (reason : String) :
    (s.resume now c).1 ≠ .failed (.unexpected reason) := by
  cases c with
  | hanging ticket deadline => simp [Site.resume, Site.giveUp]
  | queued ticket deadline =>
    simp only [Site.resume]
    split
    · exact supply_ne_unexpected _ _ _ _
    split
    · next e pool hexpire =>
      simp [Pool.expire_told (congrArg Prod.fst hexpire), Pool.exhausted]
    · exact supply_ne_unexpected _ _ _ _

theorem Progress.verdict?_ne_unregistered {p : Progress} {outbound : Outbound} {name : String}
    (h : ∀ reason, p ≠ .failed (.unexpected reason)) :
    p.verdict? outbound ≠ some (.error (unregistered name)) := by
  cases p with
  | waiting c => simp [Progress.verdict?]
  | failed e =>
    intro hv
    exact h _ (congrArg Progress.failed (Except.error.inj (Option.some.inj hv)))
  | connected l =>
    rw [Progress.verdict?]
    cases htarget : outbound.target with
    | error e =>
      intro hv
      have he : e = unregistered name := Except.error.inj (Option.some.inj hv)
      exact target_ne_unregistered outbound name (he ▸ htarget)
    | ok target => simp

namespace GatewayRun

variable {r r' r₀ : GatewayRun} {request : Nat} {f g : Flight} {names : List String}
  {name : String}

/-- No attempt fails for want of a filter. -/
theorem verdict?_ne_unregistered (h : f.phase.Foreseen) :
    r.verdict? f ≠ some (.error (unregistered name)) := by
  obtain ⟨visit, incoming, passage, attempt, phase⟩ := f
  cases phase with
  | connecting c =>
    exact Progress.verdict?_ne_unregistered (Site.resume_ne_unexpected _ _ _)
  | exchanging l e due leavesOpen =>
    obtain ⟨x, outbound, s, he⟩ := h
    intro hv
    exact attempt_ne_unregistered x outbound s name (he.symm.trans (Option.some.inj hv))
  | pausing due =>
    exact Progress.verdict?_ne_unregistered (Site.start_ne_unexpected _ _)

/-! ### What is foreseen of a request that goes on -/

theorem foreseen_enter (request : Nat) (f : Flight) (phase : Phase) (h : phase.Foreseen)
    (hg : (r.enter request f phase).flights.find request = some g) : g.phase.Foreseen := by
  obtain rfl := Option.some.inj ((Keyed.find_set_self ..).symm.trans hg)
  exact h

theorem foreseen_attemptOver (request : Nat) (f : Flight) (outcome : Except RequestError Response)
    (hg : (r.attemptOver request f outcome).flights.find request = some g) :
    g.phase.Foreseen := by
  rcases attemptOver_cases r request f outcome with ⟨pause, -, hover⟩ | ⟨-, hover⟩
  · rw [hover] at hg
    exact foreseen_enter request f (.pausing _) trivial hg
  · obtain ⟨breakers, metrics, desk, responses, hland⟩ := land_frame r request f outcome
    rw [hover, hland] at hg
    exact absurd ((Keyed.find_erase_self ..).symm.trans hg) (by simp)

theorem foreseen_send (request : Nat) (f : Flight) (l : Lent)
    (hg : (r.send request f l).flights.find request = some g) : g.phase.Foreseen := by
  rcases send_attempts r request f l with
    ⟨e, -, hsend⟩ | ⟨schedule, network, ending, leavesOpen, hattempt, hsend⟩
  · rw [hsend] at hg
    exact foreseen_attemptOver request f _ hg
  · rw [hsend] at hg
    exact foreseen_enter request f (.exchanging l ending _ leavesOpen) ⟨_, _, _, hattempt⟩ hg

theorem foreseen_onProgress (request : Nat) (f : Flight) (p : Progress × Site)
    (hg : (r.onProgress request f p).flights.find request = some g) : g.phase.Foreseen := by
  obtain ⟨p, s⟩ := p
  cases p with
  | waiting c => exact foreseen_enter request f (.connecting c) trivial hg
  | failed e => exact foreseen_attemptOver request f _ hg
  | connected l => exact foreseen_send request f l hg

theorem foreseen_goOn (request : Nat) (f : Flight)
    (hg : (r.goOn request f).flights.find request = some g) : g.phase.Foreseen := by
  obtain ⟨visit, incoming, passage, attempt, phase⟩ := f
  cases phase with
  | connecting c => exact foreseen_onProgress request _ _ hg
  | exchanging l e due leavesOpen => exact foreseen_attemptOver request _ _ hg
  | pausing due => exact foreseen_onProgress request _ _ hg

/-! ### Rules that stay

Requests and probes change nothing of the rules by which a gateway handles requests. -/

theorem sameRules_begin (r : GatewayRun) (incoming : Incoming) :
    r.gateway.SameRules (r.begin incoming).2.gateway := by
  obtain ⟨memory, balancers, pools, breakers, metrics, hgateway⟩ := gateway_begin r incoming
  rw [hgateway]
  exact ⟨rfl, rfl, rfl⟩

theorem sameRules_proceed (h : r.proceed = some r') : r.gateway.SameRules r'.gateway := by
  rcases proceed_cases h with ⟨request, f, -, -, rfl⟩ | ⟨n, c, -, rfl⟩
  · obtain ⟨pools, breakers, metrics, hgateway⟩ := gateway_goOn r request f
    rw [hgateway]
    exact ⟨rfl, rfl, rfl⟩
  · obtain ⟨routes, metrics, pools, network, probeLines, chores, hattend, hnoted, -⟩ :=
      attend_frame r n c
    rw [hattend]
    exact ⟨rfl, rfl, map_of_healthNoted (fun _ _ _ => rfl) hnoted⟩

/-! ### A gateway at work -/

/-- No request on its way will fail for want of a filter. -/
def AllForeseen (r : GatewayRun) : Prop :=
  ∀ request f, r.flights.find request = some f → f.phase.Foreseen

/-- The filters of a gateway at work are registered, but for those with some names, and no request
on its way will fail for want of a filter. -/
structure Serving (names : List String) (r : GatewayRun) : Prop where
  resolves : r.gateway.Resolves names
  foreseen : ∀ request f, r.flights.find request = some f → f.phase.Foreseen

/-- Only the request that goes on comes to another phase. -/
theorem AllForeseen.goOn (h : AllForeseen r) (request : Nat) (f : Flight) :
    AllForeseen (r.goOn request f) := by
  intro k g hg
  by_cases hk : request = k
  · subst hk
    exact foreseen_goOn request f hg
  · exact h k g ((find_flights_goOn r f hk).symm.trans hg)

theorem AllForeseen.run (h : AllForeseen r) (request visit : Nat) (incoming : Incoming)
    (body : ByteArray) : AllForeseen (r.run request visit incoming body) := by
  obtain ⟨memory, balancers, breakers, metrics, ⟨desk, responses, hrun⟩ | ⟨p, -, hrun⟩⟩ :=
    run_cases r request visit incoming body
  · rw [hrun]
    exact h
  · have hsent : AllForeseen { r with
        gateway := { r.gateway with memory, balancers, breakers, metrics }
        desk := r.desk.start visit } := h
    rw [hrun]
    exact hsent.goOn _ _

theorem AllForeseen.begin (h : AllForeseen r) (incoming : Incoming) :
    AllForeseen (r.begin incoming).2 := by
  rcases begin_cases r incoming with ⟨desk, responses, hbegin⟩ | ⟨desk, visit, body, hbegin⟩
  · rw [hbegin]
    exact h
  · have hin : AllForeseen { r with nextRequest := r.nextRequest + 1, desk } := h
    rw [hbegin]
    exact hin.run _ visit _ body

theorem AllForeseen.proceed (h : AllForeseen r) (hr' : r.proceed = some r') : AllForeseen r' := by
  rcases proceed_cases hr' with ⟨request, f, -, -, rfl⟩ | ⟨n, c, -, rfl⟩
  · exact h.goOn request f
  · obtain ⟨routes, metrics, pools, network, probeLines, chores, hattend, -, -⟩ :=
      attend_frame r n c
    rw [hattend]
    exact h

/-- What becomes of a gateway: requests come in, all goes on that can, routes are put in and taken
out by hand, the health of instances is given from outside, and whatever else there is that concerns
neither routes and filters nor requests on their way. The names are those of the filters of the
routes that were put in. -/
inductive InService (r₀ : GatewayRun) : List String → GatewayRun → Prop
  | start : InService r₀ [] r₀
  | comes {names : List String} {r : GatewayRun} (incoming : Incoming) :
      InService r₀ names r → InService r₀ names (r.begin incoming).2
  | proceeds {names : List String} {r r' : GatewayRun} :
      InService r₀ names r → r.proceed = some r' → InService r₀ names r'
  | puts {names : List String} {r : GatewayRun} {spec : RouteSpec} {g : Gateway} :
      InService r₀ names r → r.gateway.addRoute spec = .ok g →
      InService r₀ (names ++ spec.filters.map (·.name)) { r with gateway := g }
  | takes {names : List String} {r : GatewayRun} (id : String) :
      InService r₀ names r →
      InService r₀ names { r with gateway := (r.gateway.removeRoute id).2 }
  | marks {names : List String} {r : GatewayRun} (route place : Nat) (healthy : Bool) :
      InService r₀ names r →
      InService r₀ names { r with gateway := r.gateway.setHealth route place healthy }
  | aside {names : List String} {r r' : GatewayRun} :
      InService r₀ names r → r'.gateway.filters = r.gateway.filters →
      r'.gateway.globalFilters = r.gateway.globalFilters →
      r'.gateway.routes = r.gateway.routes → r'.flights = r.flights → InService r₀ names r'

/-- What the rules decide, and what routes that are put in and taken out leave, holds as long as a
gateway is at work. -/
theorem InService.keeps {P : List String → Gateway → Prop} (h : InService r₀ names r)
    (h₀ : P [] r₀.gateway)
    (hsame : ∀ {names g g'}, P names g → Gateway.SameRules g g' → P names g')
    (hputs : ∀ {names g g' spec}, P names g → Gateway.addRoute g spec = .ok g' →
      P (names ++ spec.filters.map (·.name)) g')
    (htakes : ∀ {names g} (id : String), P names g → P names (g.removeRoute id).2) :
    P names r.gateway := by
  induction h with
  | start => exact h₀
  | comes incoming _ ih => exact hsame ih (sameRules_begin _ incoming)
  | proceeds _ hr' ih => exact hsame ih (sameRules_proceed hr')
  | puts _ hadd ih => exact hputs ih hadd
  | takes id _ ih => exact htakes id ih
  | marks route place healthy _ ih =>
    exact hsame ih
      ⟨rfl, rfl, map_of_healthNoted (fun _ _ _ => rfl) (.inr ⟨route, place, _, rfl⟩)⟩
  | aside _ hfilters hglobal hroutes _ ih => exact hsame ih ⟨hfilters, hglobal, congrArg _ hroutes⟩

theorem InService.allForeseen (h : InService r₀ names r) (h₀ : AllForeseen r₀) :
    AllForeseen r := by
  induction h with
  | start => exact h₀
  | comes incoming _ ih => exact ih.begin incoming
  | proceeds _ hr' ih => exact ih.proceed hr'
  | puts _ _ ih | takes _ _ ih | marks _ _ _ _ ih => exact ih
  | aside _ _ _ _ hflights ih => exact fun request f hf => ih request f (hflights ▸ hf)

/-- **Filters stay registered** as long as a gateway is at work, but for those of routes that are
put in by hand. -/
theorem InService.serving (h : InService r₀ names r) (h₀ : Serving [] r₀) : Serving names r where
  resolves := h.keeps (P := fun names g => g.Resolves names) h₀.resolves
    (fun hresolves hsame => hresolves.congr hsame)
    (fun hresolves hadd => hresolves.addRoute hadd) fun id hresolves => hresolves.removeRoute id
  foreseen := h.allForeseen h₀.foreseen

/-- A gateway that has just started. -/
theorem serving_create (s : Settings) {gateway : Gateway} (h : gateway.Resolves [])
    (network : Network) (madeId : String) : Serving [] (create s gateway network madeId) where
  resolves := h
  foreseen _ _ hf := absurd hf (by simp [create])

end GatewayRun

end Simulation

end HttpGateway
