/-
A gateway that asks everyone for a token.

* **Filtered** — the filters of a gateway for all requests, and what is registered.
  `InService.filtered` says that they stay as they were when it started.
* **Stopped** — a request ends at the first filter for all requests that turns it away.
* `stopped_or_passed` — a request to a gateway with built-in filters passes all filters for all
  requests, or is stopped.
* `token_asked_of_all` — so if one of them asks for a listed token, whoever bears none gets nowhere.

What is behind the filters cannot be reached in any other way: routes are looked up, balancers take
their turn and backends are dialled by the dispatch alone, and that comes to the filters first.
-/
import HttpGateway.Proofs.Filter.Bearer
import HttpGateway.Proofs.Gateway.Outcome
import HttpGateway.Proofs.Lifecycle.Startup

namespace HttpGateway

open HttpGateway.Filter
open Http Request Settings Simulation

namespace Simulation.GatewayRun

variable {r r' r₀ : GatewayRun} {filters : Filter.Registry} {global : List FilterSpec}
  {names : List String} {request visit : Nat} {incoming : Incoming} {body : ByteArray}

/-! ### The filters of a gateway at work -/

/-- What is registered at a gateway, and which filters it runs on all requests. -/
structure Filtered (filters : Filter.Registry) (global : List FilterSpec) (r : GatewayRun) :
    Prop where
  registered : r.gateway.filters = filters
  global : r.gateway.globalFilters = global

theorem Filtered.congr (h : Filtered filters global r)
    (hfilters : r'.gateway.filters = r.gateway.filters)
    (hglobal : r'.gateway.globalFilters = r.gateway.globalFilters) : Filtered filters global r' :=
  ⟨hfilters.trans h.registered, hglobal.trans h.global⟩

/-- Nothing that becomes of a gateway changes its filters for all requests. -/
theorem InService.filtered (h : InService r₀ names r) (h₀ : Filtered filters global r₀) :
    Filtered filters global r := by
  obtain ⟨hfilters, hglobal⟩ := h.keeps
    (P := fun _ g => g.filters = r₀.gateway.filters ∧ g.globalFilters = r₀.gateway.globalFilters)
    ⟨rfl, rfl⟩ (fun hkept hsame => ⟨hsame.filters.trans hkept.1, hsame.global.trans hkept.2⟩)
    (fun hkept hadd => by
      obtain ⟨route, installed, -, rfl⟩ := Gateway.addRoute_frame hadd
      exact hkept)
    fun _ hkept => hkept
  exact h₀.congr hfilters hglobal

/-! ### Requests that are stopped -/

/-- A request ends at the first filter for all requests that turns it away. Whatever routes there
are, none is found for it; what stands behind the filters is as it was; and the client gets what the
filter has for it. -/
structure Stopped (r : GatewayRun) (request visit : Nat) (incoming : Incoming) (c₀ : Context)
    (status : Status) (message : String) (r' : GatewayRun) : Prop where
  first : ∃ c m, TurnedAway r.gateway.filters r.now r.gateway.globalFilters c₀ r.gateway.memory
    status message c m
  unrouted : ∀ table, ∃ c, ({ r.gateway with routes := table }.dispatch r.now c₀).1
    = .failed c (.rejected status message) ∧ c.route = none
  untouched : Untouched r r'
  answered : ∀ v, r.desk.visits.find visit = some v →
    r'.responses = if v.clientGone then r.responses
      else r.responses.set request
        (r.now, outgoing incoming (RequestError.rejected status message).response)

/-- What the filters for all requests come to does not depend on the routes. -/
theorem dispatch_of_turnedAway {g : Gateway} {now : Instant} {c₀ c : Context}
    {memory : FilterMemory} {e : RequestError}
    (h : Filter.runFilters g.filters now g.globalFilters c₀ g.memory = (.failed e, c, memory)) :
    g.dispatch now c₀ = (.failed c e, { g with memory }) := by
  simp only [Gateway.dispatch, Gateway.runFilters, h]

/-- Where only built-in filters run, a request passes all of them or is stopped. -/
theorem stopped_or_passed (hregistered : r.gateway.filters = .builtin)
    (hknown : ∀ spec ∈ r.gateway.globalFilters, (Registry.builtin.find spec.name).isSome = true)
    (request visit : Nat) (incoming : Incoming) (body : ByteArray) :
    let c₀ := incoming.context r.madeId body
    (∃ c m, Passed .builtin r.now r.gateway.globalFilters c₀ r.gateway.memory c m) ∨
      ∃ status message, Stopped r request visit incoming c₀ status message
        (r.run request visit incoming body) := by
  intro c₀
  refine (passed_or_turnedAway hknown r.now c₀ r.gateway.memory).imp_right ?_
  rintro ⟨status, message, c, m, hturned, hrun⟩
  rw [← hregistered] at hrun
  obtain ⟨attributes, hc⟩ := hturned.builtin
  have hdispatch : r.gateway.dispatch r.now c₀
      = (.failed c (.rejected status message), { r.gateway with memory := m }) :=
    dispatch_of_turnedAway hrun
  refine ⟨status, message, ⟨c, m, hregistered.symm ▸ hturned⟩, fun table => ⟨c, ?_, ?_⟩, ?_, ?_⟩
  · exact congrArg Prod.fst
      (dispatch_of_turnedAway (g := { r.gateway with routes := table }) hrun)
  · rw [hc]
    rfl
  · rw [run_failed hdispatch]
    exact untouched_finish rfl rfl rfl
  · rw [run_failed hdispatch]
    refine (answered_finish _ request visit incoming c _).of_start ?_
    rw [hc]
    rfl

/-- That a request gets an identification makes no difference to its token. -/
theorem bearsListed_identified {made listed : String} :
    BearsListed (incoming.identified made).fields listed ↔ BearsListed incoming.fields listed := by
  have htext : (incoming.identified made).fields.text? "authorization"
      = incoming.fields.text? "authorization" := by
    unfold Incoming.identified
    split
    · rfl
    · rw [Fields.text?, Fields.get?, Fields.getAll_append_other _ (by decide)]
      rfl
  rw [BearsListed, htext]
  rfl

section

variable {spec : FilterSpec} {listed : String}
  (h : Filtered .builtin global r)
  (hknown : ∀ spec ∈ global, (Registry.builtin.find spec.name).isSome = true)
  (hspec : spec ∈ global) (hname : spec.name = Bearer.filter.name)
  (hlisted : argument? spec.args "tokens" = some listed)

include h hknown hspec hname hlisted

/-- Only with a listed token a request passes a filter that asks for one. -/
theorem Filtered.stopped_or_bears (request visit : Nat) (incoming : Incoming) (body : ByteArray) :
    (BearsListed incoming.fields listed ∧ ∃ c m, Passed .builtin r.now r.gateway.globalFilters
      (incoming.context r.madeId body) r.gateway.memory c m) ∨
    ∃ status message, Stopped r request visit incoming (incoming.context r.madeId body) status
      message (r.run request visit incoming body) := by
  obtain ⟨hregistered, rfl⟩ := h
  refine (stopped_or_passed hregistered hknown request visit incoming body).imp_left ?_
  rintro ⟨c, m, hpassed⟩
  exact ⟨hpassed.bearsListed hspec hname hlisted, c, m, hpassed⟩

/-- From its arrival on a request without a listed token touches nothing behind the filters. -/
theorem Filtered.untouched_begin (hbears : ¬ BearsListed incoming.fields listed) :
    Untouched r (r.begin incoming).2 := by
  rcases begin_cases r incoming with ⟨desk, responses, hbegin⟩ | ⟨desk, visit, body, hbegin⟩
  · rw [hbegin]
    exact ⟨rfl, rfl, rfl, rfl, rfl⟩
  · have hin : Filtered .builtin global { r with nextRequest := r.nextRequest + 1, desk } :=
      h.congr rfl rfl
    rw [hbegin]
    rcases hin.stopped_or_bears hknown hspec hname hlisted r.nextRequest visit
        (incoming.identified r.madeId) body with ⟨hbears', -⟩ | ⟨status, message, hstopped⟩
    · exact absurd (bearsListed_identified.mp hbears') hbears
    · obtain ⟨hbalancers, hbreakers, hpools, hnetwork, hflights⟩ := hstopped.untouched
      exact ⟨hbalancers, hbreakers, hpools, hnetwork, hflights⟩

end

end Simulation.GatewayRun

namespace Lifecycle

open Simulation.GatewayRun

variable {s : Settings} {g : Gateway} {jitter : Nat → Nat}

/-- Settings in which no problem is found give a gateway with their filters for all requests. -/
theorem build_filtered {filters : Filter.Registry} (h : s.problems filters.names = [])
    (jitter : Nat → Nat) : ∃ g, build s filters jitter = .ok g ∧ g.filters = filters ∧
      g.globalFilters = Route.inOrder s.filters := by
  obtain ⟨g, hbuilt, -, hfilters, hglobal, -⟩ := built_of_problems h jitter
  exact ⟨g, hbuilt, hfilters, hglobal⟩

/-- A gateway that is built runs the filters of its settings on all requests, and all of them are
registered. -/
theorem filtered_of_build {filters : Filter.Registry} (hbuilt : build s filters jitter = .ok g)
    (network : Network) (madeId : String) :
    Filtered filters (Route.inOrder s.filters) (create s g network madeId) ∧
      ∀ spec ∈ Route.inOrder s.filters, (filters.find spec.name).isSome = true := by
  cases hproblems : s.problems filters.names with
  | cons problem rest =>
    simp only [build, accept, hproblems] at hbuilt
    cases hbuilt
  | nil =>
    obtain ⟨g', hg', hfilters, hglobal⟩ := build_filtered hproblems jitter
    obtain rfl : g' = g := Except.ok.inj (hg'.symm.trans hbuilt)
    refine ⟨⟨hfilters, hglobal⟩, fun spec hspec => ?_⟩
    have hknown := (accepted_of_problems hproblems).filters spec (List.mem_mergeSort.mp hspec)
    exact find_of_mem_names hknown

/-- **A token is asked of everyone.** One of the filters for all requests asks for a token that is
listed. Then a request passes these filters only if its first `Authorization` line names such a
token, and otherwise it is stopped, whatever the other filters are, in which order they run and what
has become of the gateway since it was built. Nothing behind the filters is touched by a request
without such a token. -/
theorem token_asked_of_all (hbuilt : build s .builtin jitter = .ok g) {spec : FilterSpec}
    (hspec : spec ∈ s.filters) (hname : spec.name = "AuthFilter") {listed : String}
    (hlisted : argument? spec.args "tokens" = some listed) {network : Network} {madeId : String}
    {names : List String} {r : GatewayRun}
    (hr : InService (create s g network madeId) names r) :
    (∀ request visit incoming body,
      let c₀ := incoming.context r.madeId body
      (BearsListed incoming.fields listed ∧
        ∃ c m, Passed .builtin r.now r.gateway.globalFilters c₀ r.gateway.memory c m) ∨
      ∃ status message, Stopped r request visit incoming c₀ status message
        (r.run request visit incoming body)) ∧
    ∀ incoming, ¬ BearsListed incoming.fields listed → Untouched r (r.begin incoming).2 := by
  obtain ⟨hcreated, hknown⟩ := filtered_of_build hbuilt network madeId
  have hfiltered := hr.filtered hcreated
  have hmem : spec ∈ Route.inOrder s.filters := List.mem_mergeSort.mpr hspec
  exact ⟨hfiltered.stopped_or_bears hknown hmem hname hlisted,
    fun incoming hbears => hfiltered.untouched_begin hknown hmem hname hlisted hbears⟩

/-- The names of the built-in filters are sorted as they are. -/
theorem names_builtin : Filter.Registry.builtin.names = builtinNames :=
  List.mergeSort_of_pairwise (by decide)

/-- A list of two tokens, behind a limit on how often a client may come. The second token is listed,
with or without white space around it; whoever bears another one is stopped. -/
theorem token_asked_of_all_two_listed :
    let auth : FilterSpec :=
      { name := "AuthFilter", args := [("status", "403"), ("tokens", "alpha, beta")], order := 7 }
    let s : Settings := { filters := [auth, { name := "RateLimitFilter", order := -1 }] }
    let ask (line : String) : Incoming := ⟨"GET", ⟨none, none, "/".toList, none⟩,
      ⟨[("authorization", Text.utf8 line.toList)]⟩, .ok emptyBody, ⟨.v4 [127, 0, 0, 1], 9⟩⟩
    BearsListed (ask "Bearer  beta ").fields "alpha, beta" ∧
      ¬ BearsListed (ask "Bearer gamma").fields "alpha, beta" ∧
      ∃ g, build s .builtin (fun _ => 0) = .ok g ∧
        let r := create s g ⟨true, .empty⟩ "7"
        Untouched r (r.begin (ask "Bearer gamma")).2 ∧
        ∃ status message, Stopped r 0 0 (ask "Bearer gamma")
          ((ask "Bearer gamma").context r.madeId emptyBody) status message
          (r.run 0 0 (ask "Bearer gamma") emptyBody) := by
  intro auth s ask
  have hlisted : BearsListed (ask "Bearer  beta ").fields "alpha, beta" := by decide +kernel
  have hunlisted : ¬ BearsListed (ask "Bearer gamma").fields "alpha, beta" := by decide +kernel
  have hproblems : s.problems Filter.Registry.builtin.names = [] := by
    rw [names_builtin]
    decide +kernel
  obtain ⟨g, hbuilt, -⟩ := build_filtered hproblems fun _ => 0
  have hspec : auth ∈ s.filters := List.mem_cons_self
  have htokens : argument? auth.args "tokens" = some "alpha, beta" := rfl
  let r := create s g ⟨true, .empty⟩ "7"
  have hstart : InService r [] r := .start
  obtain ⟨hstopped, huntouched⟩ := token_asked_of_all hbuilt hspec rfl htokens hstart
  refine ⟨hlisted, hunlisted, g, hbuilt, huntouched _ hunlisted, ?_⟩
  exact (hstopped 0 0 (ask "Bearer gamma") emptyBody).resolve_left fun h => hunlisted h.1

end Lifecycle

end HttpGateway
