/-
How the health of an instance follows the reports about it.

* **Report**, **Health.report** — a check that failed or succeeded, or a state given from outside,
  and what comes of it: whether the state has turned, and the health after it.
* **Health.after** — the health of an instance after a history of reports, the last one first.
* **inARow** — how many of the last reports are of one kind. This is read off the history.
* **Tracks** — what the two counts have to do with the history. In a state only the count that leads
  out of it matters: it is that of the last reports in a row and below its threshold. The other one
  is left over from the way into the state, and is not above its threshold either.
* `tracks_after` — every history keeps it, since every report does (`Tracks.report`).
* `turns_at_thresholds` — so a state turns with exactly the report that makes enough in a row.
-/
import HttpGateway.Route.Instance
import Mathlib.Data.List.Basic

namespace HttpGateway.Route

/-- A report about an instance. -/
inductive Report
  | failed
  | succeeded
  | given (healthy : Bool)
deriving DecidableEq, Repr

/-- How many of the last reports are of one kind. -/
def inARow (r : Report) (past : List Report) : Nat := (past.takeWhile (· = r)).length

section

variable {r r' : Report} {past : List Report}

@[simp] theorem inARow_self : inARow r (r :: past) = inARow r past + 1 := by
  rw [inARow, List.takeWhile_cons_of_pos (by simp)]
  rfl

theorem inARow_other (h : r' ≠ r) : inARow r (r' :: past) = 0 := by
  rw [inARow, List.takeWhile_cons_of_neg (by simpa using h)]
  rfl

end

namespace Health

/-- What comes of a report: whether the state has turned with it, and the health after it. -/
def report (unhealthyAt healthyAt : Nat) (h : Health) : Report → Bool × Health
  | .failed => h.fail unhealthyAt
  | .succeeded => h.succeed healthyAt
  | .given healthy => (false, .given healthy)

/-- The health of an instance that was set as healthy, or as unhealthy, after reports of which the
last one comes first. -/
def after (unhealthyAt healthyAt : Nat) (start : Bool) : List Report → Health
  | [] => .given start
  | r :: past => ((after unhealthyAt healthyAt start past).report unhealthyAt healthyAt r).2

section

variable {h : Health} (threshold : Nat)

theorem fail_healthy (hs : h.state = .healthy) :
    h.fail threshold = if threshold ≤ h.failures + 1 then (true, ⟨.unhealthy, h.failures + 1, 0⟩)
      else (false, ⟨.healthy, h.failures + 1, 0⟩) := by
  simp [fail, hs]

theorem fail_unhealthy (hs : h.state = .unhealthy) :
    h.fail threshold = (false, ⟨.unhealthy, h.failures, 0⟩) := by
  simp [fail, hs]

theorem succeed_unhealthy (hs : h.state = .unhealthy) :
    h.succeed threshold = if threshold ≤ h.successes + 1 then (true, ⟨.healthy, 0, h.successes + 1⟩)
      else (false, ⟨.unhealthy, 0, h.successes + 1⟩) := by
  simp [succeed, hs]

theorem succeed_healthy (hs : h.state = .healthy) :
    h.succeed threshold = (false, ⟨.healthy, 0, h.successes⟩) := by
  simp [succeed, hs]

theorem fail_state (h : Health) :
    (h.fail threshold).2.state = if (h.fail threshold).1 then .unhealthy else h.state := by
  unfold fail
  split
  · rfl
  · dsimp only
    split <;> rfl

theorem succeed_state (h : Health) :
    (h.succeed threshold).2.state = if (h.succeed threshold).1 then .healthy else h.state := by
  unfold succeed
  split
  · rfl
  · dsimp only
    split <;> rfl

end

/-- Nothing turns without a report. -/
theorem enough_pos (threshold : Nat) : 0 < max threshold 1 := Nat.le_max_right threshold 1

/-- What the counts of an instance have to do with the reports about it. A threshold of zero acts as
one. -/
structure Tracks (unhealthyAt healthyAt : Nat) (past : List Report) (h : Health) : Prop where
  state : h.state = .healthy ∧ h.failures = inARow .failed past ∧ h.failures < max unhealthyAt 1 ∨
    h.state = .unhealthy ∧ h.successes = inARow .succeeded past ∧ h.successes < max healthyAt 1
  failures_le : h.failures ≤ max unhealthyAt 1
  successes_le : h.successes ≤ max healthyAt 1

variable {unhealthyAt healthyAt : Nat} {past : List Report} {h : Health}

theorem tracks_given (healthy : Bool) (hf : inARow .failed past = 0)
    (hs : inARow .succeeded past = 0) : Tracks unhealthyAt healthyAt past (.given healthy) where
  state := by
    cases healthy with
    | true => exact .inl ⟨rfl, hf.symm, enough_pos _⟩
    | false => exact .inr ⟨rfl, hs.symm, enough_pos _⟩
  failures_le := Nat.zero_le _
  successes_le := Nat.zero_le _

theorem Tracks.fail (ht : Tracks unhealthyAt healthyAt past h) :
    Tracks unhealthyAt healthyAt (.failed :: past) (h.fail unhealthyAt).2 := by
  have hrow : inARow .succeeded (.failed :: past) = 0 := inARow_other (by simp)
  obtain ⟨hs, hrun, hlt⟩ | ⟨hs, -, -⟩ := ht.state
  · rw [fail_healthy unhealthyAt hs]
    split
    · exact ⟨.inr ⟨rfl, hrow.symm, enough_pos _⟩, by dsimp only; omega, Nat.zero_le _⟩
    · next hfew =>
      have hcount : h.failures + 1 = inARow .failed (.failed :: past) := by rw [hrun, inARow_self]
      exact ⟨.inl ⟨rfl, hcount, by dsimp only; omega⟩, by dsimp only; omega, Nat.zero_le _⟩
  · rw [fail_unhealthy unhealthyAt hs]
    exact ⟨.inr ⟨rfl, hrow.symm, enough_pos _⟩, ht.failures_le, Nat.zero_le _⟩

theorem Tracks.succeed (ht : Tracks unhealthyAt healthyAt past h) :
    Tracks unhealthyAt healthyAt (.succeeded :: past) (h.succeed healthyAt).2 := by
  have hrow : inARow .failed (.succeeded :: past) = 0 := inARow_other (by simp)
  obtain ⟨hs, -, -⟩ | ⟨hs, hrun, hlt⟩ := ht.state
  · rw [succeed_healthy healthyAt hs]
    exact ⟨.inl ⟨rfl, hrow.symm, enough_pos _⟩, Nat.zero_le _, ht.successes_le⟩
  · rw [succeed_unhealthy healthyAt hs]
    split
    · exact ⟨.inl ⟨rfl, hrow.symm, enough_pos _⟩, Nat.zero_le _, by dsimp only; omega⟩
    · next hfew =>
      have hcount : h.successes + 1 = inARow .succeeded (.succeeded :: past) := by
        rw [hrun, inARow_self]
      exact ⟨.inr ⟨rfl, hcount, by dsimp only; omega⟩, Nat.zero_le _, by dsimp only; omega⟩

theorem Tracks.report (ht : Tracks unhealthyAt healthyAt past h) (r : Report) :
    Tracks unhealthyAt healthyAt (r :: past) (h.report unhealthyAt healthyAt r).2 := by
  cases r with
  | failed => exact ht.fail
  | succeeded => exact ht.succeed
  | given healthy => exact tracks_given healthy (inARow_other (by simp)) (inARow_other (by simp))

/-- **The counts track the history**, whatever it is. -/
theorem tracks_after (unhealthyAt healthyAt : Nat) (start : Bool) (past : List Report) :
    Tracks unhealthyAt healthyAt past (after unhealthyAt healthyAt start past) := by
  induction past with
  | nil => exact tracks_given start rfl rfl
  | cons r past ih => exact ih.report r

theorem Tracks.turns_unhealthy_iff (ht : Tracks unhealthyAt healthyAt past h) :
    (h.fail unhealthyAt).1 = true ↔
      h.state = .healthy ∧ inARow .failed (.failed :: past) = max unhealthyAt 1 := by
  rw [inARow_self]
  obtain ⟨hs, hrun, hlt⟩ | ⟨hs, -, -⟩ := ht.state
  · rw [fail_healthy unhealthyAt hs, ← hrun]
    split
    · exact iff_of_true rfl ⟨hs, by omega⟩
    · exact iff_of_false (by simp) fun hturns => by omega
  · rw [fail_unhealthy unhealthyAt hs]
    exact iff_of_false (by simp) fun hturns => by simp [hs] at hturns

theorem Tracks.turns_healthy_iff (ht : Tracks unhealthyAt healthyAt past h) :
    (h.succeed healthyAt).1 = true ↔
      h.state = .unhealthy ∧ inARow .succeeded (.succeeded :: past) = max healthyAt 1 := by
  rw [inARow_self]
  obtain ⟨hs, -, -⟩ | ⟨hs, hrun, hlt⟩ := ht.state
  · rw [succeed_healthy healthyAt hs]
    exact iff_of_false (by simp) fun hturns => by simp [hs] at hturns
  · rw [succeed_unhealthy healthyAt hs, ← hrun]
    split
    · exact iff_of_true rfl ⟨hs, by omega⟩
    · exact iff_of_false (by simp) fun hturns => by omega

/-- **When the state of an instance turns.** It is set as healthy or as unhealthy, and any reports
follow; a threshold of zero acts as one. Then it is healthy or unhealthy, fewer reports in a row
than the threshold speak for the other state, and no count is above its threshold. A failed check
makes it unhealthy, and tells so, just where it is healthy and this is the last failure that was
missing in a row; a check that succeeded makes it healthy, and tells so, just where it is unhealthy
and this is the last success that was missing. No other check changes the state, and a state given
from outside is there at once. -/
theorem turns_at_thresholds (unhealthyAt healthyAt : Nat) (start : Bool) (past : List Report) :
    let before := after unhealthyAt healthyAt start past
    let failed := before.fail unhealthyAt
    let succeeded := before.succeed healthyAt
    (before.state = .healthy ∧ inARow .failed past < max unhealthyAt 1 ∨
      before.state = .unhealthy ∧ inARow .succeeded past < max healthyAt 1) ∧
    (before.failures ≤ max unhealthyAt 1 ∧ before.successes ≤ max healthyAt 1) ∧
    ((failed.1 = true ↔ before.state = .healthy ∧
        inARow .failed (.failed :: past) = max unhealthyAt 1) ∧
      failed.2.state = if failed.1 then .unhealthy else before.state) ∧
    ((succeeded.1 = true ↔ before.state = .unhealthy ∧
        inARow .succeeded (.succeeded :: past) = max healthyAt 1) ∧
      succeeded.2.state = if succeeded.1 then .healthy else before.state) ∧
    ∀ healthy, (after unhealthyAt healthyAt start (.given healthy :: past)).state
      = if healthy then .healthy else .unhealthy := by
  intro before failed succeeded
  have ht : Tracks unhealthyAt healthyAt past before := tracks_after ..
  refine ⟨?_, ⟨ht.failures_le, ht.successes_le⟩, ⟨ht.turns_unhealthy_iff, fail_state ..⟩,
    ⟨ht.turns_healthy_iff, succeed_state ..⟩, fun _ => rfl⟩
  exact ht.state.imp (fun ⟨hs, hrun, hlt⟩ => ⟨hs, hrun ▸ hlt⟩) fun ⟨hs, hrun, hlt⟩ =>
    ⟨hs, hrun ▸ hlt⟩

/-- A state that is given starts the count afresh, though it is the state that was there. -/
example : (after 2 2 true [.failed, .given true, .failed]).state = .healthy ∧
    (after 2 2 true [.failed, .failed, .given true, .failed]).state = .unhealthy := by decide

end Health

end HttpGateway.Route
