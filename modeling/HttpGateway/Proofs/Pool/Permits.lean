/-
The permits of a pool.

* **Sound** — every ticket has one seat, and the permits that are held and those that are available
  add up to a given number.
* `Sound.seat`, `Sound.setStage`, `Sound.erase`, `Sound.handOn` — what a change of one seat does to
  that number.
* **Reached.sound** — whatever happens to a pool, it comes back to the same number: that of the
  connections that may be lent.
-/
import HttpGateway.Proofs.Pool.Session

namespace HttpGateway.Pool

/-- Every ticket has one seat and was given out, the permits add up to a number, and there are not
too many idle connections. -/
structure Sound (p : Pool) (permits : Nat) : Prop where
  nodup : p.seats.keys.Nodup
  fresh : ∀ t ∈ p.seats.keys, t < p.nextTicket
  balance : p.held + p.available = permits
  idle_le : p.idle.length ≤ p.limits.maxConnections

variable {p : Pool} {t n m : Nat} {a b : Stage}

/-! ### One seat -/

theorem find_nextTicket (h : ∀ t ∈ p.seats.keys, t < p.nextTicket) :
    p.seats.find p.nextTicket = none :=
  Keyed.find_eq_none_iff.mpr fun hmem => Nat.lt_irrefl _ (h _ hmem)

theorem stage_of_firstWaiting (hp : p.seats.keys.Nodup) (h : p.firstWaiting? = some t) :
    p.stage? t = some .waiting := by
  obtain ⟨e, he, rfl⟩ := Option.map_eq_some_iff.mp h
  -- The first entry of this stage is the only one of its ticket.
  have hs : e.2 = .waiting := by simpa using List.find?_some he
  refine Keyed.findIn_of_mem hp ?_
  rw [← hs]
  exact List.mem_of_find?_eq_some he

theorem noteClosed_keys (p : Pool) (closed : Nat → Bool) :
    (p.noteClosed closed).seats.keys = p.seats.keys := by
  rw [noteClosed, Keyed.keys, Keyed.keys, List.map_map]
  rfl

namespace Sound

theorem seat (h : Sound p n) (s : Stage) : Sound (p.seat s) (n + if s.hasPermit then 1 else 0) where
  nodup := Keyed.nodup_set h.nodup ..
  fresh t ht := by
    rcases Keyed.mem_keys_set.mp ht with rfl | ht
    · exact Nat.lt_succ_self _
    · exact Nat.lt_succ_of_lt (h.fresh t ht)
  balance := by
    have hcount := Keyed.countP_set_new (find_nextTicket h.fresh) s Stage.hasPermit
    have hbal := h.balance
    show (p.seats.set p.nextTicket s).countP Stage.hasPermit + p.available = _
    rw [hcount, ← hbal]
    show p.held + _ + _ = _
    omega
  idle_le := h.idle_le

theorem setStage (h : Sound p n) (ht : p.stage? t = some a) (b : Stage)
    (hm : m + (if a.hasPermit then 1 else 0) = n + if b.hasPermit then 1 else 0) :
    Sound (p.setStage t b) m where
  nodup := Keyed.nodup_set h.nodup ..
  fresh t' ht' := by
    refine h.fresh t' ?_
    rwa [← Keyed.keys_set (a := b) (Keyed.mem_keys_of_find ht)]
  balance := by
    have hcount := Keyed.countP_set ht b Stage.hasPermit
    have hbal : p.seats.countP Stage.hasPermit + p.available = n := h.balance
    show (p.seats.set t b).countP Stage.hasPermit + p.available = m
    omega
  idle_le := h.idle_le

theorem erase (h : Sound p n) (ht : p.stage? t = some a) (pending : Nat) :
    ∃ m, m + (if a.hasPermit then 1 else 0) = n ∧
      Sound { p with seats := p.seats.erase t, pending } m := by
  have hcount := Keyed.countP_erase h.nodup ht Stage.hasPermit
  have hbal : p.seats.countP Stage.hasPermit + p.available = n := h.balance
  refine ⟨(p.seats.erase t).countP Stage.hasPermit + p.available, by omega, ?_⟩
  refine ⟨Keyed.nodup_erase h.nodup t, fun t' ht' => ?_, rfl, h.idle_le⟩
  rw [Keyed.keys_erase] at ht'
  exact h.fresh t' (List.mem_of_mem_filter ht')

/-- A permit that was available is taken. -/
theorem withdraw (h : Sound p n) (ha : 0 < p.available) (pending : Nat) :
    ∃ m, m + 1 = n ∧ Sound { p with available := p.available - 1, pending } m := by
  have hbal := h.balance
  exact ⟨p.held + (p.available - 1), by omega, h.nodup, h.fresh, rfl, h.idle_le⟩

/-- A permit is given to someone who waits, or is available again. -/
theorem handOn (h : Sound p n) : Sound p.handOn (n + 1) := by
  unfold Pool.handOn
  split
  · next t ht => exact h.setStage (stage_of_firstWaiting h.nodup ht) .granted rfl
  · have hbal : p.held + (p.available + 1) = n + 1 := congrArg (· + 1) h.balance
    exact ⟨h.nodup, h.fresh, hbal, h.idle_le⟩

/-- Whoever leaves hands on the permit, if there is one. -/
theorem leave (h : Sound p n) (t : Nat) : Sound (p.leave t) n := by
  unfold Pool.leave
  split
  · exact h
  · next s hs =>
    obtain ⟨m, hm, hleft⟩ := h.erase hs (if s.isPending then p.pending - 1 else p.pending)
    by_cases hpermit : s.hasPermit = true
    · rw [if_pos hpermit] at hm ⊢
      rw [← hm]
      exact hleft.handOn
    · rw [if_neg hpermit] at hm ⊢
      rw [← hm]
      exact hleft

/-- The permits do not depend on how many are said to wait, on which connections are idle, as long
as these are not too many, and on the number of the next connection. -/
theorem withOthers (h : Sound p n) {idle : List Idle} (hi : idle.length ≤ p.limits.maxConnections)
    (pending next : Nat) : Sound { p with pending, idle, nextConnection := next } n :=
  ⟨h.nodup, h.fresh, h.balance, hi⟩

theorem withPending (h : Sound p n) (pending : Nat) : Sound { p with pending } n :=
  h.withOthers h.idle_le pending p.nextConnection

theorem keep (h : Sound p n) (c : Connection) (now : Instant) : Sound (p.keep c now) n := by
  unfold Pool.keep
  split
  · exact h.withOthers (List.length_take_le _ _) p.pending p.nextConnection
  · exact h

theorem evict (h : Sound p n) (now : Instant) : Sound (p.evict now).2 n :=
  h.withOthers (Nat.le_trans (List.length_filter_le _ _) h.idle_le) p.pending p.nextConnection

theorem noteClosed (h : Sound p n) (closed : Nat → Bool) : Sound (p.noteClosed closed) n where
  nodup := by
    rw [noteClosed_keys]
    exact h.nodup
  fresh t ht := by
    rw [noteClosed_keys] at ht
    exact h.fresh t ht
  balance := by
    have hsame : ∀ s : Stage, (s.afterClosing closed).hasPermit = s.hasPermit := by
      intro s
      cases s <;> rfl
    have hcount := p.seats.countP_map (Stage.afterClosing closed) Stage.hasPermit
    simp only [hsame] at hcount
    exact (congrArg (· + p.available) hcount).trans h.balance
  idle_le := by
    rw [Pool.noteClosed, List.length_map]
    exact h.idle_le

/-- What happens to a pool keeps its permits together. -/
theorem change (h : Sound p n) {e : Event} {q : Pool} (hq : Change p e q) : Sound q n := by
  cases hq with
  | nothing => exact h
  | letIn ha =>
    obtain ⟨m, rfl, hw⟩ := h.withdraw ha p.pending
    exact hw.seat (.admitted true)
  | queue => exact (h.withPending (p.pending + 1)).seat .waiting
  | grantLate ha =>
    obtain ⟨m, rfl, hw⟩ := h.withdraw ha (p.pending + 1)
    exact hw.seat .granted
  | enter hs => exact (h.withPending (p.pending - 1)).setStage hs (.admitted true) rfl
  | refuse hs =>
    obtain ⟨m, rfl, hleft⟩ := h.erase hs (p.pending - 1)
    exact hleft
  | passOver hs => exact (h.withPending (p.pending - 1)).setStage hs (.admitted false) rfl
  | giveUp => exact h.leave _
  | goBare hs =>
    -- Without this permit there is one less, until it is handed on.
    obtain ⟨m, hm, -⟩ := h.erase hs p.pending
    have hbare := (h.withPending (p.pending - 1)).setStage (m := m) hs (.admitted false) hm
    rw [← hm]
    exact hbare.handOn
  | draw hs hi =>
    have hle : p.idle.length ≤ p.limits.maxConnections := h.idle_le
    rw [hi, List.length_cons] at hle
    exact (h.withOthers (Nat.le_of_succ_le hle) p.pending p.nextConnection).setStage hs _ rfl
  | discard hs => exact h.setStage hs _ rfl
  | opened hs => exact (h.withOthers h.idle_le p.pending (p.nextConnection + 1)).setStage hs _ rfl
  | putBack hs =>
    exact (h.keep _ _).setStage ((keep_stage ..).trans hs) _ rfl
  | leave => exact h.leave _
  | evict => exact h.evict _
  | noteClosed => exact h.noteClosed _

end Sound

/-- No event changes what was set: how much a pool lends, and to whom it connects. -/
theorem handOn_set (p : Pool) :
    p.handOn.limits = p.limits ∧ p.handOn.authority = p.authority := by
  unfold handOn
  split <;> exact ⟨rfl, rfl⟩

theorem leave_set (p : Pool) (t : Nat) :
    (p.leave t).limits = p.limits ∧ (p.leave t).authority = p.authority := by
  unfold leave
  split
  · exact ⟨rfl, rfl⟩
  · dsimp only
    split
    · exact handOn_set _
    · exact ⟨rfl, rfl⟩

theorem leave_limits (p : Pool) (t : Nat) : (p.leave t).limits = p.limits := (leave_set p t).1

theorem Change.set {p q : Pool} {e : Event} (h : Change p e q) :
    q.limits = p.limits ∧ q.authority = p.authority := by
  cases h with
  | giveUp => exact leave_set ..
  | leave => exact leave_set ..
  | goBare => exact handOn_set _
  | putBack =>
    show (p.keep _ _).limits = p.limits ∧ (p.keep _ _).authority = p.authority
    unfold keep
    split <;> exact ⟨rfl, rfl⟩
  | _ => exact ⟨rfl, rfl⟩

theorem Change.limits {p q : Pool} {e : Event} (h : Change p e q) : q.limits = p.limits := h.set.1

theorem sound_create (limits : Limits) (authority : String) :
    Sound (.create limits authority) limits.maxConnections where
  nodup := List.nodup_nil
  fresh := by simp [create, Keyed.empty, Keyed.keys]
  balance := Nat.zero_add _
  idle_le := Nat.zero_le _

/-- **The permits are kept together** in every session that can be reached. -/
theorem Reached.sound {limits : Limits} {authority : String} {s : Session}
    (h : Reached limits authority s) :
    s.pool.limits = limits ∧ Sound s.pool limits.maxConnections := by
  refine Reached.invariant
    (I := fun s => s.pool.limits = limits ∧ Sound s.pool limits.maxConnections) ?_
    ⟨rfl, sound_create limits authority⟩ h
  intro s e hfine _ hs
  have hchange := e.change s.pool hfine
  exact ⟨hchange.limits.trans hs.1, hs.2.change hchange⟩

theorem Reached.authority {limits : Limits} {authority : String} {s : Session}
    (h : Reached limits authority s) : s.pool.authority = authority :=
  Reached.invariant (fun s e hfine _ hs => (e.change s.pool hfine).set.2.trans hs) rfl h

end HttpGateway.Pool
