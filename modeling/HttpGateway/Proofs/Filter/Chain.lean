/-
What a chain of filters comes to.

* **Passed** — filters that all let a request pass, each taking it as the one before left it.
* **Refuses** — a filter that turns a request away, or is not known.
* **Course** — the three ways of a chain: all filters let the request pass, or those in front of
  some filter do and that one refuses it, or breaks down.
* `Passed.runFilters`, `runFilters_course` — that is how a chain runs.
-/
import HttpGateway.Filter.Chain

namespace HttpGateway.Filter

open Http Request Settings

/-- Filters let a request pass, one after another. -/
inductive Passed (registry : Registry) (now : Instant) :
    List FilterSpec → Context → FilterMemory → Context → FilterMemory → Prop
  | nil {c m} : Passed registry now [] c m c m
  | cons {spec rest f c m c₁ m₁ c' m'} : registry.find spec.name = some f →
      f.apply spec.args now c m = (.pass c₁, m₁) → Passed registry now rest c₁ m₁ c' m' →
      Passed registry now (spec :: rest) c m c' m'

/-- A filter that is not known, or turns a request away. -/
inductive Refuses (registry : Registry) (now : Instant) (spec : FilterSpec) :
    Context → FilterMemory → RequestError → Context → FilterMemory → Prop
  | unknown {c m} : registry.find spec.name = none →
      Refuses registry now spec c m (unregistered spec.name) c m
  | turnedAway {f c m c' m' status message} : registry.find spec.name = some f →
      f.apply spec.args now c m = (.turnAway c' status message, m') →
      Refuses registry now spec c m (.rejected status message) c' m'

/-- What a chain of filters comes to. -/
inductive Course (registry : Registry) (now : Instant) (specs : List FilterSpec) (c : Context)
    (m : FilterMemory) : ChainResult → Context → FilterMemory → Prop
  | passed {c' m'} : Passed registry now specs c m c' m' →
      Course registry now specs c m .passed c' m'
  | refused {front spec back c₁ m₁ c' m' e} : specs = front ++ spec :: back →
      Passed registry now front c m c₁ m₁ → Refuses registry now spec c₁ m₁ e c' m' →
      Course registry now specs c m (.failed e) c' m'
  | brokenDown {front spec back c' m₁ m' f} : specs = front ++ spec :: back →
      Passed registry now front c m c' m₁ → registry.find spec.name = some f →
      f.apply spec.args now c' m₁ = (.breakDown, m') →
      Course registry now specs c m .brokenDown c' m'

variable {registry : Registry} {now : Instant} {specs rest : List FilterSpec} {spec : FilterSpec}
  {c c₁ c' : Context} {m m₁ m' : FilterMemory} {result : ChainResult}

theorem Passed.runFilters (h : Passed registry now specs c m c' m') :
    runFilters registry now specs c m = (.passed, c', m') := by
  induction h with
  | nil => rfl
  | cons hf hpass _ ih =>
    rw [Filter.runFilters, hf]
    simp only [hpass, ih]

/-- A chain goes on with what its first filter has left. -/
theorem Course.cons {f : Filter} (hf : registry.find spec.name = some f)
    (hpass : f.apply spec.args now c m = (.pass c₁, m₁))
    (h : Course registry now rest c₁ m₁ result c' m') :
    Course registry now (spec :: rest) c m result c' m' := by
  cases h with
  | passed h => exact .passed (.cons hf hpass h)
  | refused hs h hrefuses =>
    exact .refused (congrArg (spec :: ·) hs) (.cons hf hpass h) hrefuses
  | brokenDown hs h hf' hbroken =>
    exact .brokenDown (congrArg (spec :: ·) hs) (.cons hf hpass h) hf' hbroken

theorem runFilters_course (h : runFilters registry now specs c m = (result, c', m')) :
    Course registry now specs c m result c' m' := by
  induction specs generalizing c m with
  | nil =>
    cases h
    exact .passed .nil
  | cons spec rest ih =>
    have hfirst : spec :: rest = [] ++ spec :: rest := rfl
    cases hf : registry.find spec.name with
    | none =>
      simp only [runFilters, hf] at h
      cases h
      exact .refused hfirst .nil (.unknown hf)
    | some f =>
      -- Nothing is known of a filter but that it comes to one of these outcomes.
      obtain ⟨outcome, m₁, happly⟩ : ∃ outcome m₁, f.apply spec.args now c m = (outcome, m₁) :=
        ⟨_, _, rfl⟩
      simp only [runFilters, hf, happly] at h
      cases outcome with
      | pass c₁ => exact .cons hf happly (ih h)
      | turnAway c₁ status message =>
        cases h
        exact .refused hfirst .nil (.turnedAway hf happly)
      | breakDown =>
        cases h
        exact .brokenDown hfirst .nil hf happly

end HttpGateway.Filter
