/-
A gateway that starts from accepted settings.

* `resolves_of_accepted` — all filters that such a gateway runs are registered.
* `built_as_accepted` — settings in which no problem is found give a gateway. It has the routes of
  the settings as they are, and no request fails there for want of a filter that the settings name.

The check and the building are done apart: the check looks at names of filters, and what a request
runs into is the registry. Both go by the same keys, so nothing can be accepted that is not found.
-/
import HttpGateway.Lifecycle.Startup
import HttpGateway.Proofs.Gateway.Registered

namespace HttpGateway.Lifecycle

open Settings Simulation Simulation.GatewayRun

variable {s : Settings} {filters : Filter.Registry}

/-- A filter is found by each of the names that the registry gives. -/
theorem find_of_mem_names {name : String} (h : name ∈ filters.names) :
    (filters.find name).isSome = true :=
  Keyed.contains_iff.mpr (List.mem_mergeSort.mp h)

/-- What a gateway runs is what its settings name. -/
theorem resolves_of_accepted {g : Gateway} (h : s.Accepted filters.names)
    (hfilters : g.filters = filters) (hglobal : g.globalFilters = Route.inOrder s.filters)
    (hroutes : List.Forall₂ (Route.Follows s.resilience.enabled) g.routes s.routes) :
    g.Resolves [] := by
  rintro spec (hspec | ⟨route, hroute, hspec⟩)
  · rw [hglobal] at hspec
    rw [hfilters]
    exact .inl (find_of_mem_names (h.filters spec (List.mem_mergeSort.mp hspec)))
  · -- The filters of a route are those of its settings, in the order of running.
    obtain ⟨settings, hsettings, hfollows⟩ := exists_of_forall₂_mem hroutes hroute
    rw [hfollows.filters] at hspec
    rw [hfilters]
    have hknown := (h.routes _ hsettings).filters spec (List.mem_mergeSort.mp hspec)
    exact .inl (find_of_mem_names hknown)

/-- Settings in which no problem is found give a gateway that runs what they name. -/
theorem built_of_problems (h : s.problems filters.names = []) (jitter : Nat → Nat) :
    ∃ g, build s filters jitter = .ok g ∧ Gateway.ofSettings s filters jitter = .ok g ∧
      g.filters = filters ∧ g.globalFilters = Route.inOrder s.filters ∧
      List.Forall₂ (Route.Follows s.resilience.enabled) g.routes s.routes := by
  obtain ⟨g, hg, hrest⟩ := Gateway.ofSettings_accepted (accepted_of_problems h) filters jitter
  refine ⟨g, ?_, hg, hrest⟩
  simp only [build, accept, h]
  exact congrArg (Except.mapError StartupError.route) hg

/-- What is built is what the settings make, and nothing is wrong with them. -/
theorem ofSettings_of_build {jitter : Nat → Nat} {g : Gateway}
    (hbuilt : build s filters jitter = .ok g) :
    s.problems filters.names = [] ∧ Gateway.ofSettings s filters jitter = .ok g := by
  cases hproblems : s.problems filters.names with
  | cons problem rest =>
    simp only [build, accept, hproblems] at hbuilt
    cases hbuilt
  | nil =>
    obtain ⟨g', hbuilt', hg', -⟩ := built_of_problems hproblems jitter
    obtain rfl : g' = g := Except.ok.inj (hbuilt'.symm.trans hbuilt)
    exact ⟨rfl, hg'⟩

/-- **Accepted settings are built as they are.** If no problem is found in settings with the filters
of a registry, a gateway is built from them with that registry. It has one route for each in the
settings, in their order, with its id and its path; each instance has the weight, the health and the
mark of the settings, and each rule for the field of a gray release is there. Whatever becomes of
the gateway, a request fails there for want of a filter only if that is one of a route that was put
in by hand, and so never as long as there is none; and no attempt of a request fails for that. -/
theorem built_as_accepted (s : Settings) (filters : Filter.Registry) (jitter : Nat → Nat)
    (h : s.problems filters.names = []) :
    ∃ g, build s filters jitter = .ok g ∧
      List.Forall₂ (Route.Follows s.resilience.enabled) g.routes s.routes ∧
      ∀ network madeId names r, InService (create s g network madeId) names r →
        ∀ name,
          (∀ now c₀ c, (r.gateway.dispatch now c₀).1 = .failed c (Filter.unregistered name) →
            name ∈ names) ∧
          ∀ request f, r.flights.find request = some f →
            r.verdict? f ≠ some (.error (Filter.unregistered name)) := by
  -- The check tells what the builders rely on, and what is built tells what requests run into.
  have haccepted := accepted_of_problems h
  obtain ⟨g, hbuilt, hfilters, hglobal, hroutes⟩ :=
    Gateway.ofSettings_accepted haccepted filters jitter
  refine ⟨g, ?_, hroutes, fun network madeId names r hr name => ?_⟩
  · simp only [build, accept, h]
    exact congrArg (Except.mapError StartupError.route) hbuilt
  · have hresolves := resolves_of_accepted haccepted hfilters hglobal hroutes
    have hserving := hr.serving (serving_create s hresolves network madeId)
    exact ⟨fun now c₀ c hd => hserving.resolves.dispatch hd,
      fun request f hf => verdict?_ne_unregistered (hserving.foreseen request f hf)⟩

/-- A route for everyone who says that canaries are welcome, with a filter of its own. The weight
and the rule come through, and no request fails for want of the filter. -/
theorem built_as_accepted_canary :
    let filters : Filter.Registry := .register .empty Filter.Bearer.filter
    let canary : InstanceSpec :=
      { serviceId := "orders", url := "http://[::1]:81", weight := 3, gray := true }
    let route : RouteSpec :=
      { id := "orders", path := "/orders", filters := [{ name := "AuthFilter" }]
        grayRelease := some { header := some ⟨"X-Canary", ["welcome"]⟩ }, instances := [canary] }
    let s : Settings := { routes := [route] }
    s.problems filters.names = [] ∧ ∃ g r, build s filters (fun _ => 0) = .ok g ∧ g.routes = [r] ∧
      r.instances.map (·.weight) = [3] ∧
      r.gray.bind (·.header) = some ⟨"x-canary", ["welcome"]⟩ ∧
      ∀ now c₀ c, (g.dispatch now c₀).1 ≠ .failed c (Filter.unregistered "AuthFilter") := by
  intro filters canary route s
  have h : s.problems filters.names = [] := by decide +kernel
  obtain ⟨g, hbuilt, hroutes, hserves⟩ := built_as_accepted s filters (fun _ => 0) h
  obtain ⟨r, rest, hr, hrest, hg⟩ := List.forall₂_cons_right_iff.mp hroutes
  obtain rfl := List.forall₂_nil_right_iff.mp hrest
  obtain ⟨i, rest, hi, hrest, his⟩ := List.forall₂_cons_right_iff.mp hr.instances
  obtain rfl := List.forall₂_nil_right_iff.mp hrest
  have hname : Http.fieldName? "X-Canary" = some "x-canary" := by decide +kernel
  refine ⟨h, g, r, hbuilt, hg, ?_, ?_, fun now c₀ c hd => ?_⟩
  · rw [his]
    exact congrArg (fun w => [w]) hi.weight
  · have hgray := hr.gray
    generalize r.gray = gray at hgray
    cases hgray with
    | @some policy _ hp =>
      have hheader := hp.header
      show policy.header = _
      generalize policy.header = header at hheader
      cases hheader with
      | @some kept _ hkept =>
        have hkeeps : kept.name = "x-canary" := Option.some.inj (hkept.1.symm.trans hname)
        exact congrArg some (congrArg₂ HeaderRule.mk hkeeps hkept.2)
  · exact List.not_mem_nil
      ((hserves ⟨true, .empty⟩ "7" [] _ .start "AuthFilter").1 now c₀ c hd)

end HttpGateway.Lifecycle
