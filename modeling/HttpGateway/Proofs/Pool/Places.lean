/-
Where the connections of a pool are.

* **Kept** — no connection gets into another place, and none is opened.
* **Placed** — no connection is in two places, and one that was not opened yet is in none.
* `effect_places` — an event keeps all connections in their places or takes them out; the one that
  it opens gets its first place.
* **Reached.placed**, `places_effect_le` — so every connection is in at most one place in each
  session that can be reached, and one that is nowhere does not come back.
* `idleCount_release`, `places_leave_lent` — where a connection is once it was given back, or given
  up.
-/
import HttpGateway.Proofs.Pool.Ledger

namespace HttpGateway.Pool

variable {p q : Pool} {t n k : Nat} {a b : Stage} {c : Connection} {permit : Bool} {now : Instant}

/-! ### Events -/

/-- No connection gets into another place, and none is opened. -/
structure Kept (p q : Pool) : Prop where
  places : ∀ k, q.places k ≤ p.places k
  next : q.nextConnection = p.nextConnection

/-- One connection is opened and gets its first place. -/
structure OneOpened (p q : Pool) : Prop where
  places : ∀ k, q.places k ≤ p.places k + if k = p.nextConnection then 1 else 0
  next : q.nextConnection = p.nextConnection + 1

/-- An event keeps all connections in their places or takes them out, or it opens one. -/
theorem effect_places (hp : Sound p n) (e : Event) :
    Kept p (e.effect p) ∨ OneOpened p (e.effect p) := by
  obtain ⟨hnext, haccount⟩ := effect_conserves hp e
  simp only [wasOpened] at haccount
  rcases hnext with hnext | hnext
  · refine .inl ⟨fun k => ?_, hnext⟩
    have heven := haccount k
    rw [hnext] at heven
    omega
  · refine .inr ⟨fun k => ?_, hnext⟩
    have heven := haccount k
    rw [hnext] at heven
    split at heven <;> split at heven <;> split <;> omega

/-- A connection that is nowhere, though it was opened, does not come back. -/
theorem places_effect_le (hp : Sound p n) (e : Event) (hk : k < p.nextConnection) :
    (e.effect p).places k ≤ p.places k ∧ k < (e.effect p).nextConnection := by
  rcases effect_places hp e with h | h
  · exact ⟨h.places k, h.next ▸ hk⟩
  · have hle := h.places k
    rw [if_neg (Nat.ne_of_lt hk)] at hle
    exact ⟨hle, h.next ▸ Nat.lt_succ_of_lt hk⟩

/-! ### One place each -/

/-- No connection is in two places, and one that has not been opened yet is in none. -/
structure Placed (p : Pool) : Prop where
  once : ∀ k, p.places k ≤ 1
  fresh : ∀ k, p.nextConnection ≤ k → p.places k = 0

theorem Placed.effect (h : Placed p) (hp : Sound p n) (e : Event) : Placed (e.effect p) := by
  rcases effect_places hp e with hkept | hopened
  · exact ⟨fun k => Nat.le_trans (hkept.places k) (h.once k),
      fun k hk => Nat.eq_zero_of_le_zero (h.fresh k (hkept.next ▸ hk) ▸ hkept.places k)⟩
  · refine ⟨fun k => ?_, fun k hk => ?_⟩
    · have hle := hopened.places k
      by_cases hnew : k = p.nextConnection
      · rw [if_pos hnew, h.fresh k (Nat.le_of_eq hnew.symm)] at hle
        exact hle
      · rw [if_neg hnew] at hle
        exact Nat.le_trans hle (h.once k)
    · have hlt : p.nextConnection + 1 ≤ k := hopened.next ▸ hk
      have hle := hopened.places k
      rw [if_neg (Nat.ne_of_gt hlt), h.fresh k (Nat.le_of_lt hlt)] at hle
      exact Nat.eq_zero_of_le_zero hle

/-- **Each connection is in one place at most** in every session that can be reached. -/
theorem Reached.placed {limits : Limits} {authority : String} {s : Session}
    (h : Reached limits authority s) : Placed s.pool := by
  induction h with
  | start => exact ⟨fun _ => Nat.zero_le 1, fun _ _ => rfl⟩
  | @step s e hs _ ih => exact ih.effect hs.sound.2 e

theorem countP_lends_pos (hs : p.stage? t = some (.holding permit c)) :
    1 ≤ p.seats.countP (Stage.lends c.id) := by
  have hcount := Keyed.countP_set hs .waiting (Stage.lends c.id)
  simp only [Stage.lends, decide_true, if_true, Bool.false_eq_true, if_false] at hcount
  omega

/-- What is lent is not idle. -/
theorem Placed.idleCount_lent (h : Placed p) (hs : p.stage? t = some (.holding permit c)) :
    p.idleCount c.id = 0 := by
  have honce := h.once c.id
  have hlent := countP_lends_pos hs
  rw [places] at honce
  omega

/-- A connection that is given back is idle if it is open. -/
theorem idleCount_release (h : Placed p) (hs : p.stage? t = some (.holding permit c))
    (hmax : 0 < p.limits.maxConnections) :
    (p.release t now).idleCount c.id = if c.isOpen then 1 else 0 := by
  have hzero := h.idleCount_lent hs
  simp only [release, hs, idleCount, leave_idle]
  unfold keep
  split
  · -- It stands in front, so that it is among those that are kept.
    obtain ⟨m, hm⟩ : ∃ m, p.limits.maxConnections = m + 1 :=
      ⟨_, (Nat.succ_pred_eq_of_pos hmax).symm⟩
    have hrest := (List.take_sublist m p.idle).countP_le
      (p := fun i : Idle => decide (i.connection.id = c.id))
    rw [idleCount] at hzero
    simp only [hm, List.take_succ_cons, List.countP_cons, decide_true, if_true]
    omega
  · exact hzero

/-- A connection that is given up is nowhere. -/
theorem places_leave_lent (h : Placed p) (hp : Sound p n)
    (hs : p.stage? t = some (.holding permit c)) : (p.leave t).places c.id = 0 := by
  have hleave := places_leave (k := c.id) hp.nodup hs
  have honce := h.once c.id
  simp only [Stage.lends, decide_true, if_true] at hleave
  omega

end HttpGateway.Pool
