/-
What settings without problems are like.

* **InstanceSpec.Accepted**, **GrayRelease.Accepted**, **RouteSpec.Accepted**, **Accepted** — what
  the check of a part makes sure of: URLs that can be connected to, weights that count, names of
  fields that are names, and filters that are known.
* `accepted_of_problems` — settings in which no problem is found are accepted in all their parts.

The check lists problems and does not say what it has established. Here that is said, part by part,
in the words in which those who build from the settings need it.
-/
import HttpGateway.Settings.Check

namespace HttpGateway.Settings

open Http

variable {field : String} {known earlier : List String}

/-! ### Lists of problems -/

theorem problemIf_eq_nil {condition : Bool} {message : String} :
    problemIf condition field message = [] ↔ condition = false := by
  cases condition <;> simp [problemIf]

/-- Where nothing is wrong with a list, nothing is wrong with any element. -/
theorem eachProblem_eq_nil {α : Type} {xs : List α} {f : String → α → List Problem}
    (h : eachProblem field xs f = []) : ∀ x ∈ xs, ∃ name, f name x = [] := by
  intro x hx
  obtain ⟨i, hi⟩ := List.mem_iff_getElem?.mp hx
  have hmem : (x, i) ∈ xs.zipIdx := List.mem_zipIdx_iff_getElem?.mpr hi
  exact ⟨_, List.flatMap_eq_nil_iff.mp h (x, i) hmem⟩

/-! ### Parts -/

/-- An instance can be connected to, and its weight counts as it is. -/
structure InstanceSpec.Accepted (s : InstanceSpec) : Prop where
  weight : 1 ≤ s.weight
  url : ∃ url host, Url.parse s.url.toList = .ok url ∧ url.scheme = "http".toList ∧
    url.host = some host

/-- The field of a rule has a name. -/
structure GrayRelease.Accepted (s : GrayRelease) : Prop where
  header : ∀ rule, s.header = some rule → ∃ name, fieldName? rule.name = some name

/-- A route whose instances, gray release and filters are accepted. -/
structure RouteSpec.Accepted (known : List String) (s : RouteSpec) : Prop where
  instances : ∀ i ∈ s.instances, i.Accepted
  gray : ∀ gray, s.grayRelease = some gray → gray.Accepted
  filters : ∀ f ∈ s.filters, f.name ∈ known

theorem url_of_problems {url : String} (h : urlProblems field url = []) :
    ∃ u host, Url.parse url.toList = .ok u ∧ u.scheme = "http".toList ∧ u.host = some host := by
  unfold urlProblems at h
  cases hparse : Url.parse url.toList with
  | error e => simp [hparse] at h
  | ok u =>
    simp only [hparse] at h
    split at h
    · cases h
    · next hscheme =>
      have hsome := Option.isNone_eq_false_iff.mp (problemIf_eq_nil.mp h)
      obtain ⟨host, hhost⟩ := Option.isSome_iff_exists.mp hsome
      exact ⟨u, host, rfl, Decidable.not_not.mp hscheme, hhost⟩

theorem InstanceSpec.accepted_of_problems {s : InstanceSpec} (h : s.problems field = []) :
    s.Accepted := by
  unfold InstanceSpec.problems at h
  rw [List.append_eq_nil_iff, List.append_eq_nil_iff] at h
  obtain ⟨⟨-, hweight⟩, hurl⟩ := h
  have hzero : s.weight ≠ 0 := by simpa using problemIf_eq_nil.mp hweight
  exact ⟨Nat.one_le_iff_ne_zero.mpr hzero, url_of_problems hurl⟩

theorem GrayRelease.accepted_of_problems {s : GrayRelease} (h : s.problems field = []) :
    s.Accepted := by
  unfold GrayRelease.problems at h
  rw [List.append_eq_nil_iff] at h
  refine ⟨fun rule hrule => ?_⟩
  rw [hrule] at h
  exact Option.isSome_iff_exists.mp (Option.isNone_eq_false_iff.mp (problemIf_eq_nil.mp h.2))

theorem filters_of_problems {filters : List FilterSpec}
    (h : filterProblems known field filters = []) : ∀ f ∈ filters, f.name ∈ known := by
  intro f hf
  obtain ⟨name, hname⟩ := eachProblem_eq_nil h f hf
  simpa using problemIf_eq_nil.mp hname

theorem RouteSpec.accepted_of_problems {s : RouteSpec} (h : s.problems known earlier field = []) :
    s.Accepted known := by
  -- Each part of the list of problems is empty for itself.
  unfold RouteSpec.problems at h
  simp only [List.append_eq_nil_iff] at h
  obtain ⟨⟨⟨-, hinstances⟩, hgray⟩, hfilters⟩ := h
  refine ⟨fun i hi => ?_, fun gray hspec => ?_, filters_of_problems hfilters⟩
  · obtain ⟨name, hname⟩ := eachProblem_eq_nil hinstances i hi
    exact InstanceSpec.accepted_of_problems hname
  · rw [hspec] at hgray
    exact GrayRelease.accepted_of_problems hgray

/-! ### All settings -/

/-- All routes are accepted, and the filters for all requests are known. -/
structure Accepted (known : List String) (s : Settings) : Prop where
  filters : ∀ f ∈ s.filters, f.name ∈ known
  routes : ∀ r ∈ s.routes, r.Accepted known

/-- Settings in which no problem is found are accepted. -/
theorem accepted_of_problems {s : Settings} {known : List String} (h : s.problems known = []) :
    s.Accepted known := by
  unfold problems at h
  simp only [List.append_eq_nil_iff] at h
  obtain ⟨⟨⟨-, hfilters⟩, hroutes⟩, -⟩ := h
  refine ⟨filters_of_problems hfilters, fun r hr => ?_⟩
  obtain ⟨i, hi⟩ := List.mem_iff_getElem?.mp hr
  have hmem : (r, i) ∈ s.routes.zipIdx := List.mem_zipIdx_iff_getElem?.mpr hi
  exact RouteSpec.accepted_of_problems (List.flatMap_eq_nil_iff.mp hroutes (r, i) hmem)

end HttpGateway.Settings
