/-
What a run of attempts comes to.

* **Policy.Continues** — each of some outcomes, the first of which is that of the first attempt, is
  followed by another attempt.
* `Continues.length_le` — there are no more such outcomes than retries.
* `Continues.run` — a run whose attempts come out that way, and then in a way that is not followed
  by another attempt, has made just these attempts, and has the outcome of the last one.
-/
import HttpGateway.Retry.Policy

namespace HttpGateway.Retry.Policy

variable {α : Type} {p : Policy} {k n : Nat} {outcome last : Except RequestError α}
  {outcomes : List (Except RequestError α)}

/-- There is another attempt after each of some outcomes, those of the attempts from the first one
on. -/
def Continues (p : Policy) (outcomes : List (Except RequestError α)) : Prop :=
  ∀ k outcome, outcomes[k]? = some outcome → (p.pause? (k + 1) outcome).isSome = true

theorem pause?_le (h : (p.pause? n outcome).isSome = true) : n ≤ p.maxRetries := by
  cases outcome with
  | ok a => simp [pause?] at h
  | error e =>
    rw [pause?, Option.isSome_ite, Bool.and_eq_true, decide_eq_true_eq] at h
    exact h.2

theorem continues_nil : p.Continues ([] : List (Except RequestError α)) := by
  simp [Continues]

theorem Continues.append (h : p.Continues outcomes)
    (hlast : (p.pause? (outcomes.length + 1) last).isSome = true) :
    p.Continues (outcomes ++ [last]) := by
  intro k outcome hk
  rcases Nat.lt_trichotomy k outcomes.length with hlt | heq | hgt
  · rw [List.getElem?_append_left hlt] at hk
    exact h k outcome hk
  · rw [heq, List.getElem?_concat_length] at hk
    rwa [heq, ← Option.some.inj hk]
  · rw [List.getElem?_eq_none (by simp; omega)] at hk
    exact absurd hk (by simp)

theorem Continues.length_le (h : p.Continues outcomes) : outcomes.length ≤ p.maxRetries := by
  by_cases hempty : outcomes.length = 0
  · omega
  · have hlt : outcomes.length - 1 < outcomes.length := by omega
    have hle := pause?_le (h _ _ (List.getElem?_eq_getElem hlt))
    omega

/-- From the attempt `n` on. -/
theorem runFrom_outcome {work : Nat → Instant × Except RequestError α} :
    ∀ {outcomes : List (Except RequestError α)} {left n : Nat} {now : Instant},
      n + left = p.maxRetries + 1 →
      (∀ k outcome, outcomes[k]? = some outcome → (p.pause? (n + k) outcome).isSome = true) →
      p.pause? (n + outcomes.length) last = none →
      (∀ k outcome, (outcomes ++ [last])[k]? = some outcome → (work (n + k)).2 = outcome) →
      (p.runFrom work left n now).outcome = last ∧
        (p.runFrom work left n now).attempts.map Prod.fst
          = List.range' n (outcomes.length + 1) := by
  intro outcomes
  induction outcomes with
  | nil =>
    intro left n now _ _ hlast hwork
    have hn : (work n).2 = last := hwork 0 last rfl
    have hstop : p.pause? n (work n).2 = none := by rwa [hn]
    unfold runFrom
    simp only [hstop]
    exact ⟨hn, rfl⟩
  | cons first rest ih =>
    intro left n now hleft hgo hlast hwork
    have hn : (work n).2 = first := hwork 0 first rfl
    have hsome := hgo 0 first rfl
    obtain ⟨pause, hpause⟩ := Option.isSome_iff_exists.mp hsome
    -- As there is another attempt, some are left.
    have hle : n ≤ p.maxRetries := pause?_le hsome
    obtain ⟨left, rfl⟩ : ∃ k, left = k + 1 := ⟨left - 1, by omega⟩
    have hcont : p.pause? n (work n).2 = some pause := by rwa [hn]
    have hnext : ∀ k, n + 1 + k = n + (k + 1) := fun k => by omega
    obtain ⟨houtcome, hattempts⟩ := @ih left (n + 1) (now + (work n).1 + pause) (by omega)
      (fun k outcome hk => hnext k ▸ hgo (k + 1) outcome hk)
      (hnext rest.length ▸ hlast) (fun k outcome hk => hnext k ▸ hwork (k + 1) outcome hk)
    unfold runFrom
    simp only [hcont]
    exact ⟨houtcome, congrArg (n :: ·) hattempts⟩

/-- A run goes through outcomes that are followed by another attempt, and ends with the first that
is not. -/
theorem Continues.run {work : Nat → Instant × Except RequestError α} (h : p.Continues outcomes)
    (hlast : p.pause? (outcomes.length + 1) last = none)
    (hwork : ∀ k outcome, (outcomes ++ [last])[k]? = some outcome → (work (k + 1)).2 = outcome)
    (now : Instant) :
    (p.run work now).outcome = last ∧
      (p.run work now).attempts.map Prod.fst = List.range' 1 (outcomes.length + 1) :=
  runFrom_outcome (Nat.add_comm 1 _) (fun k outcome hk => Nat.add_comm 1 k ▸ h k outcome hk)
    (Nat.add_comm 1 _ ▸ hlast) fun k outcome hk => Nat.add_comm 1 k ▸ hwork k outcome hk

end HttpGateway.Retry.Policy
