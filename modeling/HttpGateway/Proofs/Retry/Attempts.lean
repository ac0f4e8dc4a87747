/-
How long a run goes on, and when its attempts are made.

* **Final** — an outcome after which nothing is tried again, however many retries are left.
* **Policy.begins** — when an attempt begins if each one before it was followed by another one: all of
  them have taken their time, and have been followed by their delay.
* `runFrom_eq` — a run whose attempts are each followed by another one up to some last attempt is
  made of just these, each of them at that time.
* `run_until_final` — a run makes its attempts up to the first one that is final, or up to the last
  one that is allowed, with the delay of each between it and the next and none behind the last.
-/
import HttpGateway.Proofs.Retry.Run
import Mathlib.Data.Nat.Find

namespace HttpGateway.Retry

variable {α : Type}

/-- Whether an outcome ends a run: a success does, and an error after which nothing is tried. -/
def Final : Except RequestError α → Prop
  | .ok _ => True
  | .error e => e.retryable = false

namespace Policy

variable {p : Policy} {k n first left : Nat} {outcome : Except RequestError α}
  {work : Nat → Instant × Except RequestError α}

theorem pause?_eq_none_iff : p.pause? k outcome = none ↔ Final outcome ∨ p.maxRetries < k := by
  cases outcome with
  | ok a => simp [pause?, Final]
  | error e =>
    rw [pause?, Final]
    cases e.retryable <;> simp

/-- What is paused for is the delay of the attempt. -/
theorem pause?_eq_some {pause : Instant} (h : p.pause? k outcome = some pause) :
    pause = p.delay k := by
  cases outcome with
  | ok a => simp [pause?] at h
  | error e =>
    rw [pause?] at h
    split at h
    · exact (Option.some.inj h).symm
    · simp at h

/-- When an attempt begins. The attempts are counted from `first` on, which begins at `now`. -/
def begins (p : Policy) (work : Nat → Instant × Except RequestError α) (first : Nat)
    (now : Instant) (k : Nat) : Instant :=
  (List.range' first (k - first)).foldl (fun t i => t + (work i).1 + p.delay i) now

theorem begins_first (first : Nat) (now : Instant) : p.begins work first now first = now := by
  simp [begins]

/-- An attempt is followed by its delay, and then by the next one. -/
theorem begins_succ (now : Instant) (h : first ≤ k) :
    p.begins work first now (k + 1) = p.begins work first now k + (work k).1 + p.delay k := by
  obtain ⟨m, rfl⟩ := Nat.exists_eq_add_of_le h
  have hlater : first + m + 1 - first = m + 1 := by omega
  have hleft : first + m - first = m := by omega
  unfold begins
  rw [hlater, hleft, List.range'_concat, List.foldl_append, Nat.one_mul]
  rfl

/-- The attempts may be counted from the second one on. -/
theorem begins_next (now : Instant) (h : first < k) :
    p.begins work (first + 1) (now + (work first).1 + p.delay first) k
      = p.begins work first now k := by
  obtain ⟨m, rfl⟩ := Nat.exists_eq_add_of_lt h
  have hlater : first + m + 1 - (first + 1) = m := by omega
  have hleft : first + m + 1 - first = m + 1 := by omega
  unfold begins
  rw [hlater, hleft, List.range'_succ, List.foldl_cons]

/-! ### What a run makes of its attempts -/

/-- A run from an attempt on, of which the `n`-th after it is the first that is not followed by
another one. -/
theorem runFrom_eq (hgo : ∀ k < n, (p.pause? (first + k) (work (first + k)).2).isSome = true)
    (hstop : p.pause? (first + n) (work (first + n)).2 = none) (hleft : n ≤ left) (now : Instant) :
    p.runFrom work left first now =
      ⟨(List.range' first (n + 1)).map fun k => (k, p.begins work first now k),
        (work (first + n)).2, p.begins work first now (first + n) + (work (first + n)).1⟩ := by
  induction n generalizing left first now with
  | zero =>
    unfold runFrom
    rw [Nat.add_zero] at hstop ⊢
    simp [hstop, begins_first]
  | succ n ih =>
    obtain ⟨left, rfl⟩ : ∃ k, left = k + 1 := ⟨left - 1, by omega⟩
    have hshift : ∀ k, first + 1 + k = first + (k + 1) := fun k => by omega
    have hfirst := hgo 0 (by omega)
    obtain ⟨pause, hpause⟩ := Option.isSome_iff_exists.mp hfirst
    rw [Nat.add_zero] at hpause
    obtain rfl := pause?_eq_some hpause
    have hrest := @ih (first + 1) left (fun k hk => hshift k ▸ hgo (k + 1) (by omega))
      (hshift n ▸ hstop) (by omega) (now + (work first).1 + p.delay first)
    -- Counted from the first attempt on, the others begin when they begin counted from the second.
    have htimes : ((List.range' (first + 1) (n + 1)).map fun k =>
        (k, p.begins work (first + 1) (now + (work first).1 + p.delay first) k))
        = (List.range' (first + 1) (n + 1)).map fun k => (k, p.begins work first now k) :=
      List.map_congr_left fun k hk => by
        rw [begins_next now (List.mem_range'_1.mp hk).1]
    unfold runFrom
    simp only [hpause, hrest]
    rw [htimes, hshift, begins_next now (by omega), List.range'_succ (s := first),
      List.map_cons, begins_first]

end Policy

/-! ### A whole run -/

open Policy

/-- **A run goes on until an outcome is final, and never beyond what is allowed.** Its attempts are
numbered from one on. The last of them is the first one whose outcome is a success or an error after
which nothing is tried, and if there is none before, it is the one after as many retries as are set;
a number of them that is not positive is none. Its outcome is that of the run, which ends with it.
Each one before begins its successor when its own delay has passed, and nothing else passes. -/
theorem run_until_final (s : Settings.Retries) (jitter : Nat → Nat)
    (work : Nat → Instant × Except RequestError α) (now : Instant) :
    ∃ (n : Nat) (begun : Nat → Instant),
      1 ≤ n ∧ (n : Int) ≤ max s.maxRetries 0 + 1 ∧
      (∀ k, 1 ≤ k → k < n → ¬ Final (work k).2) ∧
      (Final (work n).2 ∨ (n : Int) = max s.maxRetries 0 + 1) ∧
      begun 1 = now ∧
      (∀ k, 1 ≤ k → k < n → begun (k + 1) = begun k + (work k).1
        + .ofMillis (backoff k s.baseDelayMs s.maxDelayMs (jitter k))) ∧
      (ofSettings s jitter).run work now
        = ⟨(List.range' 1 n).map fun k => (k, begun k), (work n).2, begun n + (work n).1⟩ := by
  classical
  let p := ofSettings s jitter
  have hmost : (p.maxRetries : Int) = max s.maxRetries 0 := Int.toNat_eq_max _
  -- After the last retry nothing is tried again, so there is a first attempt of that kind.
  have hends : ∃ m, p.pause? (1 + m) (work (1 + m)).2 = none :=
    ⟨p.maxRetries, pause?_eq_none_iff.mpr (.inr (by omega))⟩
  let m := Nat.find hends
  have hstop : p.pause? (1 + m) (work (1 + m)).2 = none := Nat.find_spec hends
  have hbefore : ∀ k < m, p.pause? (1 + k) (work (1 + k)).2 ≠ none := fun k hk =>
    Nat.find_min hends hk
  have hle : m ≤ p.maxRetries := Nat.find_min' hends (pause?_eq_none_iff.mpr (.inr (by omega)))
  have hgo : ∀ k < m, (p.pause? (1 + k) (work (1 + k)).2).isSome = true := fun k hk =>
    Option.isSome_iff_ne_none.mpr (hbefore k hk)
  refine ⟨m + 1, p.begins work 1 now, by omega, by omega, fun k hk hkm hfinal => ?_, ?_,
    begins_first 1 now, fun k hk _ => begins_succ now hk, ?_⟩
  · have := hbefore (k - 1) (by omega)
    rw [Nat.add_sub_cancel' hk] at this
    exact this (pause?_eq_none_iff.mpr (.inl hfinal))
  · rw [Nat.add_comm 1 m] at hstop
    rcases pause?_eq_none_iff.mp hstop with hfinal | hmore
    · exact .inl hfinal
    · exact .inr (by omega)
  · have hrun := runFrom_eq hgo hstop hle now
    rw [Nat.add_comm 1 m] at hrun
    exact hrun

end HttpGateway.Retry
