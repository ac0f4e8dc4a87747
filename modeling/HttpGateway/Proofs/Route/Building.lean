/-
Routes that are built from settings.

* **Instance.Follows**, **GrayPolicy.Follows**, **Route.Follows** — what is built is as its settings
  say. Nothing that they say is left out or replaced.
* `Instance.follows_of_accepted`, `Route.follows_of_accepted` — from accepted settings there comes
  an instance, or a route, and it follows them.
* **Route.Carries** — the part of it that holds of any route that is built, accepted or not: its
  place and its filters.
* `Gateway.ofSettings_accepted` — so there comes a gateway, with one route for each in the settings.
* **Gateway.BuiltFrom** — what a gateway has from its settings, whether or not they were checked.

Both the check and those who build read URLs, weights and names of fields, each on their own, and
the latter make do with less: a weight of zero would count as one, and a rule whose field has no
name would be dropped. Accepted settings leave no room for that.
-/
import HttpGateway.Gateway.Basic
import HttpGateway.Proofs.Settings.Accepted
import Mathlib.Data.List.Forall2

namespace HttpGateway

open Balance Http Settings

/-- Each of several things can be built, and comes to what is wanted of it. So it is for all. -/
theorem mapM_of_forall {ε α β : Type} {f : α → Except ε β} {R : β → α → Prop} {xs : List α}
    (h : ∀ x ∈ xs, ∃ y, f x = .ok y ∧ R y x) :
    ∃ ys, xs.mapM f = .ok ys ∧ List.Forall₂ R ys xs := by
  induction xs with
  | nil => exact ⟨[], rfl, .nil⟩
  | cons x rest ih =>
    obtain ⟨⟨y, hy, hR⟩, hrest⟩ := List.forall_mem_cons.mp h
    obtain ⟨ys, hys, hRs⟩ := ih hrest
    refine ⟨y :: ys, ?_, .cons hR hRs⟩
    rw [List.mapM_cons, hy, hys]
    rfl

/-- What several things are built to is what each of them is built to. -/
theorem forall₂_of_mapM {ε α β : Type} {f : α → Except ε β} {xs : List α} {ys : List β}
    (h : xs.mapM f = .ok ys) : List.Forall₂ (fun y x => f x = .ok y) ys xs := by
  induction xs generalizing ys with
  | nil =>
    cases h
    exact .nil
  | cons x rest ih =>
    rw [List.mapM_cons] at h
    cases hx : f x with
    | error e =>
      rw [hx] at h
      cases h
    | ok y =>
      rw [hx] at h
      cases hrest : rest.mapM f with
      | error e =>
        rw [hrest] at h
        cases h
      | ok ys =>
        rw [hrest] at h
        cases h
        exact .cons hx (ih hrest)

theorem exists_of_forall₂_mem {α β : Type} {R : α → β → Prop} {xs : List α} {ys : List β}
    (h : List.Forall₂ R xs ys) {x : α} (hx : x ∈ xs) : ∃ y ∈ ys, R x y := by
  induction h with
  | nil => exact absurd hx List.not_mem_nil
  | cons hR _ ih =>
    rcases List.mem_cons.mp hx with rfl | hx
    · exact ⟨_, List.mem_cons_self, hR⟩
    · obtain ⟨y, hy, hRy⟩ := ih hx
      exact ⟨y, List.mem_cons_of_mem _ hy, hRy⟩

/-! ### Gray releases -/

/-- A policy as its settings say. The rule for a field is there with all its values, and the field
by its name. -/
structure Balance.GrayPolicy.Follows (p : GrayPolicy) (spec : GrayRelease) : Prop where
  enabled : p.enabled = spec.enabled
  header : Option.Rel (fun kept rule : HeaderRule =>
    fieldName? rule.name = some kept.name ∧ kept.values = rule.values) p.header spec.header
  userPercentage : p.userPercentage = spec.userPercentage
  addressRanges : p.addressRanges = spec.addressRanges
  requestPercentage : p.requestPercentage = spec.requestPercentage

theorem Balance.GrayPolicy.follows_of_accepted {spec : GrayRelease} (h : spec.Accepted) :
    (GrayPolicy.ofSpec spec).Follows spec := by
  refine ⟨rfl, ?_, rfl, rfl, rfl⟩
  unfold GrayPolicy.ofSpec
  cases hrule : spec.header with
  | none => exact .none
  | some rule =>
    -- The rule would be dropped if its field had no name.
    obtain ⟨name, hname⟩ := h.header rule hrule
    simp only [Option.bind_some, hname, Option.map_some]
    exact .some ⟨hname, rfl⟩

/-! ### Instances -/

namespace Route

/-- An instance as its settings say. -/
structure Instance.Follows (i : Instance) (spec : InstanceSpec) : Prop where
  serviceId : i.serviceId = spec.serviceId
  url : Url.parse spec.url.toList = .ok i.url
  weight : i.weight = spec.weight
  health : i.health = .given spec.healthy
  gray : i.gray = spec.gray

/-- A URL of the scheme in which requests are sent always has a port. -/
theorem effectivePort?_of_http {u : Url} (h : u.scheme = "http".toList) :
    u.effectivePort? = some (u.port.getD 80) := by
  unfold Url.effectivePort?
  cases u.port with
  | some port => rfl
  | none =>
    rw [h]
    rfl

theorem Instance.follows_of_accepted {spec : InstanceSpec} (h : spec.Accepted) :
    ∃ i, Instance.ofSpec spec = .ok i ∧ i.Follows spec := by
  obtain ⟨u, host, hparse, hscheme, hhost⟩ := h.url
  have hport := effectivePort?_of_http hscheme
  have hbuilt : Instance.ofSpec spec = .ok
      { serviceId := spec.serviceId
        url := u
        host := String.ofList host.text
        port := u.port.getD 80
        weight := max spec.weight 1
        gray := spec.gray
        health := .given spec.healthy } := by
    simp only [Instance.ofSpec, hparse, hhost, hport]
  exact ⟨_, hbuilt, rfl, hparse, Nat.max_eq_left h.weight, rfl, rfl⟩

/-! ### Routes -/

/-- A route as its settings say. `resilient` holds where they do not say. -/
structure Follows (resilient : Bool) (r : Route) (spec : RouteSpec) : Prop where
  id : r.id = spec.id
  path : r.path = spec.path
  balancing : r.balancing = spec.balancing
  gray : Option.Rel GrayPolicy.Follows r.gray spec.grayRelease
  filters : r.filters = inOrder spec.filters
  resilient : r.resilient = spec.resilient.getD resilient
  instances : List.Forall₂ Instance.Follows r.instances spec.instances

variable {known : List String} {spec : RouteSpec} {resilient : Bool} {r : Route}

/-- The route of some settings, once its instances are there. -/
theorem ofSpec_eq (spec : RouteSpec) (resilient : Bool) :
    ofSpec spec resilient = (spec.instances.mapM Instance.ofSpec).map fun instances =>
      { id := spec.id
        path := spec.path
        balancing := spec.balancing
        gray := spec.grayRelease.map .ofSpec
        filters := inOrder spec.filters
        resilient := spec.resilient.getD resilient
        instances } := by
  unfold ofSpec
  cases spec.instances.mapM Instance.ofSpec <;> rfl

/-- A route that is where its settings say, with the filters that they name. -/
structure Carries (r : Route) (spec : RouteSpec) : Prop where
  id : r.id = spec.id
  path : r.path = spec.path
  filters : r.filters = inOrder spec.filters

/-- Whatever becomes of the instances, a route carries the filters of its settings. -/
theorem carries_of_ofSpec (h : ofSpec spec resilient = .ok r) : r.Carries spec := by
  rw [ofSpec_eq] at h
  cases hinstances : spec.instances.mapM Instance.ofSpec with
  | error e =>
    rw [hinstances] at h
    cases h
  | ok instances =>
    rw [hinstances] at h
    cases h
    exact ⟨rfl, rfl, rfl⟩

/-- The instances of a route are those of its settings. -/
theorem instances_of_ofSpec (h : ofSpec spec resilient = .ok r) :
    List.Forall₂ (fun i spec => Instance.ofSpec spec = .ok i) r.instances spec.instances := by
  rw [ofSpec_eq] at h
  cases hinstances : spec.instances.mapM Instance.ofSpec with
  | error e =>
    rw [hinstances] at h
    cases h
  | ok instances =>
    rw [hinstances] at h
    cases h
    exact forall₂_of_mapM hinstances

theorem follows_of_accepted (h : spec.Accepted known) (resilient : Bool) :
    ∃ r, ofSpec spec resilient = .ok r ∧ r.Follows resilient spec := by
  obtain ⟨instances, hinstances, hfollows⟩ :=
    mapM_of_forall fun i hi => Instance.follows_of_accepted (h.instances i hi)
  have hgray : Option.Rel GrayPolicy.Follows (spec.grayRelease.map .ofSpec) spec.grayRelease := by
    cases hrelease : spec.grayRelease with
    | none => exact .none
    | some release => exact .some (GrayPolicy.follows_of_accepted (h.gray release hrelease))
  have hbuilt := ofSpec_eq spec resilient
  rw [hinstances] at hbuilt
  exact ⟨_, hbuilt, rfl, rfl, rfl, hgray, rfl, rfl, hfollows⟩

end Route

/-! ### Gateways -/

namespace Gateway

/-- What holds of a route whatever its number holds of the routes that are numbered. -/
theorem forall₂_numbered {R : Route → RouteSpec → Prop}
    (hR : ∀ r n spec, R r spec → R { r with installation := n } spec) {t : Route.Table}
    {specs : List RouteSpec} (h : List.Forall₂ R t specs) : List.Forall₂ R (numbered t) specs := by
  have hfrom : ∀ k, List.Forall₂ R
      ((t.zipIdx k).map fun e => { e.1 with installation := e.2 }) specs := by
    induction h with
    | nil => exact fun k => .nil
    | cons hr _ ih => exact fun k => .cons (hR _ k _ hr) (ih (k + 1))
  exact hfrom 0

/-- From accepted settings there comes a gateway with the filters that there are. It runs those for
all requests that are in the settings, and its table has one route for each in the settings. -/
theorem ofSettings_accepted {known : List String} {s : Settings} (h : s.Accepted known)
    (filters : Filter.Registry) (jitter : Nat → Nat) :
    ∃ g, ofSettings s filters jitter = .ok g ∧ g.filters = filters ∧
      g.globalFilters = Route.inOrder s.filters ∧
      List.Forall₂ (Route.Follows s.resilience.enabled) g.routes s.routes := by
  obtain ⟨routes, hroutes, hfollows⟩ :=
    mapM_of_forall fun spec hspec => Route.follows_of_accepted (h.routes spec hspec)
      s.resilience.enabled
  have hnumbered := forall₂_numbered (fun r n spec hr =>
    ⟨hr.id, hr.path, hr.balancing, hr.gray, hr.filters, hr.resilient, hr.instances⟩) hfollows
  have hbuilt : ∃ g, ofSettings s filters jitter = .ok g ∧ g.filters = filters ∧
      g.globalFilters = Route.inOrder s.filters ∧ g.routes = numbered routes := by
    unfold ofSettings Route.Table.ofSpecs
    rw [hroutes]
    exact ⟨_, rfl, rfl, rfl, rfl⟩
  obtain ⟨g, hg, hfilters, hglobal, htable⟩ := hbuilt
  exact ⟨g, hg, hfilters, hglobal, htable ▸ hnumbered⟩

/-- What a gateway has from its settings. -/
structure BuiltFrom (g : Gateway) (s : Settings) (filters : Filter.Registry) : Prop where
  filters : g.filters = filters
  fallbacks : g.fallbacks = .ofSpecs s.fallbacks
  healthCheck : g.healthCheck = s.healthCheck
  instances : List.Forall₂ (fun i spec => Route.Instance.ofSpec spec = .ok i)
    (g.routes.flatMap (·.instances)) (s.routes.flatMap (·.instances))

/-- The instances of a gateway are those that are set, in the order of their routes. -/
theorem builtFrom_of_ofSettings {s : Settings} {filters : Filter.Registry} {jitter : Nat → Nat}
    {g : Gateway} (h : ofSettings s filters jitter = .ok g) : g.BuiltFrom s filters := by
  unfold ofSettings Route.Table.ofSpecs at h
  cases hroutes : s.routes.mapM (Route.ofSpec · s.resilience.enabled) with
  | error e =>
    rw [hroutes] at h
    cases h
  | ok routes =>
    rw [hroutes] at h
    obtain rfl := Except.ok.inj h
    have hbuilt := (forall₂_of_mapM hroutes).imp fun r spec hr => Route.instances_of_ofSpec hr
    exact ⟨rfl, rfl, rfl,
      List.rel_flatMap (forall₂_numbered (fun _ _ _ h => h) hbuilt) fun _ _ h => h⟩

end Gateway

end HttpGateway
