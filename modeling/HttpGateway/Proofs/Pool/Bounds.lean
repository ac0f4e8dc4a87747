/-
How many connections a pool has.

* **Session.Strict** — what holds of a pool that never lets anyone through without a permit: whoever
  has a connection, or opens one, has a permit, and with the idle ones these connections are at most
  as many as may be lent.
* `connections_bounded` — in every session that can be reached the permits are kept together, and
  there are not too many idle connections; if a wait that lasts too long fails, there are not too
  many connections at all.

An idle connection has no permit, so that the permits alone do not bound the connections. What does
is that someone opens a connection only after finding none idle: at that moment all connections are
lent or being opened, one for a permit.
-/
import HttpGateway.Proofs.Pool.Permits

namespace HttpGateway.Pool

namespace Stage

/-- Whether someone has a connection. -/
def isHolding : Stage → Bool
  | holding .. => true
  | _ => false

/-- Whether someone may have a connection but has none. -/
def isAdmitted : Stage → Bool
  | admitted _ => true
  | _ => false

/-- Whether someone was let through without a permit. -/
def isBare : Stage → Bool
  | admitted false | holding false _ => true
  | _ => false

theorem isBare_holding (permit : Bool) (c : Connection) :
    (holding permit c).isBare = (admitted permit).isBare := by
  cases permit <;> rfl

end Stage

/-- How many connections are lent. -/
def lent (p : Pool) : Nat := p.seats.countP Stage.isHolding

variable {p : Pool} {t t' : Nat} {a b : Stage} {P : Stage → Bool}

/-! ### Other seats -/

theorem isAdmitted_congr {q : Pool} (h : q.stage? t = p.stage? t) :
    q.isAdmitted t = p.isAdmitted t := by
  rw [isAdmitted, isAdmitted, h]

theorem not_isAdmitted (h : p.stage? t = some a) (ha : a.isAdmitted = false) :
    ¬ p.isAdmitted t = true := by
  intro hadmitted
  obtain ⟨permit, hs⟩ := isAdmitted_iff.mp hadmitted
  rw [h] at hs
  rw [Option.some.inj hs] at ha
  exact Bool.noConfusion ha

theorem isAdmitted_setStage (hne : t' ≠ t) (s : Stage) :
    (p.setStage t' s).isAdmitted t = p.isAdmitted t :=
  isAdmitted_congr (q := p.setStage t' s) (Keyed.find_set_other _ hne s)

theorem isAdmitted_handOn (hp : p.seats.keys.Nodup) (h : p.isAdmitted t = true) :
    p.handOn.isAdmitted t = true := by
  unfold handOn
  split
  · next t' ht' =>
    have hne : t' ≠ t := by
      rintro rfl
      exact not_isAdmitted (stage_of_firstWaiting hp ht') rfl h
    exact (isAdmitted_setStage hne .granted).trans h
  · exact h

theorem isAdmitted_leave (hp : p.seats.keys.Nodup) (hne : t' ≠ t) (h : p.isAdmitted t = true) :
    (p.leave t').isAdmitted t = true := by
  unfold leave
  split
  · exact h
  · next s hs =>
    have hleft : ∀ k, ({ p with seats := p.seats.erase t', pending := k } : Pool).isAdmitted t :=
      fun k => (isAdmitted_congr (q := { p with seats := p.seats.erase t', pending := k })
        (Keyed.find_erase_other _ hne)).trans h
    dsimp only
    split
    · exact isAdmitted_handOn (Keyed.nodup_erase hp t') (hleft _)
    · exact hleft _

theorem countP_handOn (hp : p.seats.keys.Nodup) (hP : P .waiting = P .granted) :
    p.handOn.seats.countP P = p.seats.countP P := by
  unfold handOn
  split
  · next t ht =>
    have hcount := Keyed.countP_set (stage_of_firstWaiting hp ht) .granted P
    rw [hP] at hcount
    exact Nat.add_right_cancel hcount
  · rfl

theorem countP_leave (hp : p.seats.keys.Nodup) (hs : p.stage? t = some a)
    (hP : P .waiting = P .granted) :
    (p.leave t).seats.countP P + (if P a then 1 else 0) = p.seats.countP P := by
  rw [← Keyed.countP_erase hp hs P]
  simp only [leave, hs]
  split
  · rw [countP_handOn (Keyed.nodup_erase hp t) hP]
  · rfl

theorem handOn_idle (p : Pool) : p.handOn.idle = p.idle := by
  unfold handOn
  split <;> rfl

theorem leave_idle (p : Pool) (t : Nat) : (p.leave t).idle = p.idle := by
  unfold leave
  split
  · rfl
  · dsimp only
    split
    · exact handOn_idle _
    · rfl

/-! ### The connections -/

/-- What holds of a pool that lets nobody through without a permit: those who open a connection are
admitted and are different ones, and there are not too many connections, idle, lent or being
opened. -/
structure Session.Strict (s : Session) : Prop where
  no_bare : s.pool.seats.countP Stage.isBare = 0
  nodup : s.opening.Nodup
  admitted : ∀ t ∈ s.opening, s.pool.isAdmitted t = true
  bound : s.pool.idle.length + s.pool.lent + s.opening.length ≤ s.pool.limits.maxConnections

namespace Session.Strict

variable {s : Session} {opening : List Nat} {n : Nat}

theorem not_opening (h : s.Strict) (hs : s.pool.stage? t = some a) (ha : a.isAdmitted = false) :
    t ∉ s.opening :=
  fun ht => not_isAdmitted hs ha (h.admitted t ht)

/-- Someone new has come, without a connection. -/
theorem seat (h : s.Strict) (hp : Sound s.pool n) {b : Stage} (hbare : b.isBare = false)
    (hb : b.isHolding = false) (available pending : Nat) :
    Strict ⟨{ s.pool with available, pending }.seat b, s.opening⟩ where
  no_bare := by
    have hcount := Keyed.countP_set_new (find_nextTicket hp.fresh) b Stage.isBare
    rw [hbare, h.no_bare] at hcount
    exact hcount
  nodup := h.nodup
  admitted t ht := by
    have hadmitted := h.admitted t ht
    obtain ⟨permit, hs⟩ := isAdmitted_iff.mp hadmitted
    have hlt : t < s.pool.nextTicket := hp.fresh t (Keyed.mem_keys_of_find hs)
    exact isAdmitted_iff.mpr ⟨permit, (Keyed.find_set_other _ (Nat.ne_of_gt hlt) b).trans hs⟩
  bound := by
    have hcount := Keyed.countP_set_new (find_nextTicket hp.fresh) b Stage.isHolding
    have hlent : (s.pool.seats.set s.pool.nextTicket b).countP Stage.isHolding = s.pool.lent := by
      rw [hcount, hb]
      rfl
    show s.pool.idle.length + (s.pool.seats.set s.pool.nextTicket b).countP Stage.isHolding + _ ≤ _
    rw [hlent]
    exact h.bound

/-- Someone gets to another stage, and does not open a connection afterwards. -/
theorem setStage (h : s.Strict) (hs : s.pool.stage? t = some a) (b : Stage)
    (hbare : b.isBare = a.isBare) (ho : opening.Sublist s.opening) (ht : t ∉ opening)
    {idle : List Idle} (pending next : Nat)
    (hsum : idle.length + (if b.isHolding then 1 else 0) + opening.length
      ≤ s.pool.idle.length + (if a.isHolding then 1 else 0) + s.opening.length) :
    Strict ⟨{ s.pool with pending, idle, nextConnection := next }.setStage t b, opening⟩ where
  no_bare := by
    have hcount := Keyed.countP_set hs b Stage.isBare
    rw [hbare, h.no_bare] at hcount
    exact Nat.add_right_cancel hcount
  nodup := ho.nodup h.nodup
  admitted t' ht' := by
    have hne : t ≠ t' := fun heq => ht (heq ▸ ht')
    exact (isAdmitted_setStage hne b).trans (h.admitted t' (ho.subset ht'))
  bound := by
    have hcount := Keyed.countP_set hs b Stage.isHolding
    have hbound := h.bound
    show idle.length + (s.pool.seats.set t b).countP Stage.isHolding + opening.length ≤ _
    rw [lent] at hbound
    show _ ≤ s.pool.limits.maxConnections
    omega

/-- Someone leaves. -/
theorem leave (h : s.Strict) (hp : Sound s.pool n) (hs : s.pool.stage? t = some a)
    (ho : opening.Sublist s.opening) (ht : t ∉ opening) : Strict ⟨s.pool.leave t, opening⟩ where
  no_bare := by
    have hcount := countP_leave (P := Stage.isBare) hp.nodup hs rfl
    rw [h.no_bare] at hcount
    exact (Nat.add_eq_zero_iff.mp hcount).1
  nodup := ho.nodup h.nodup
  admitted t' ht' := by
    have hne : t ≠ t' := fun heq => ht (heq ▸ ht')
    exact isAdmitted_leave hp.nodup hne (h.admitted t' (ho.subset ht'))
  bound := by
    have hcount := countP_leave (P := Stage.isHolding) hp.nodup hs rfl
    have hbound := h.bound
    have hlen := ho.length_le
    rw [lent] at hbound
    show (s.pool.leave t).idle.length + (s.pool.leave t).seats.countP Stage.isHolding
      + opening.length ≤ (s.pool.leave t).limits.maxConnections
    rw [leave_idle, leave_limits]
    omega

/-- Who finds no idle connection opens one. Then all connections are lent or being opened, each by
someone with a permit. -/
theorem findNone (h : s.Strict) (hp : Sound s.pool s.pool.limits.maxConnections)
    (ht : t ∉ s.opening) (hadmitted : s.pool.isAdmitted t = true) (hidle : s.pool.idle = []) :
    Strict ⟨s.pool, t :: s.opening⟩ := by
  have hnodup : (t :: s.opening).Nodup := List.nodup_cons.mpr ⟨ht, h.nodup⟩
  have hall : ∀ t' ∈ t :: s.opening, s.pool.isAdmitted t' = true :=
    List.forall_mem_cons.mpr ⟨hadmitted, h.admitted⟩
  have hopening : (t :: s.opening).length ≤ s.pool.seats.countP Stage.isAdmitted := by
    refine Keyed.length_le_countP hnodup fun t' ht' => ?_
    obtain ⟨permit, hs⟩ := isAdmitted_iff.mp (hall t' ht')
    exact ⟨_, hs, rfl⟩
  -- Nobody is bare, so whoever has a connection or may have one has a permit.
  have hpermits : s.pool.lent + s.pool.seats.countP Stage.isAdmitted
      ≤ s.pool.held + s.pool.seats.countP Stage.isBare := by
    refine Keyed.countP_add_le fun x => ?_
    cases x with
    | admitted permit => cases permit <;> decide
    | holding permit c =>
      cases permit <;> simp [Stage.isHolding, Stage.isAdmitted, Stage.hasPermit, Stage.isBare]
    | _ => decide
  have hbal := hp.balance
  have hbare := h.no_bare
  refine ⟨h.no_bare, hnodup, hall, ?_⟩
  show s.pool.idle.length + s.pool.lent + (t :: s.opening).length ≤ s.pool.limits.maxConnections
  rw [hidle, List.length_nil]
  omega

theorem noteClosed (h : s.Strict) (closed : Nat → Bool) :
    Strict ⟨s.pool.noteClosed closed, s.opening⟩ where
  no_bare := by
    have hcount := s.pool.seats.countP_map (Stage.afterClosing closed) Stage.isBare
    have hsame : ∀ x : Stage, (x.afterClosing closed).isBare = x.isBare := fun x => by
      cases x with
      | holding permit c => cases permit <;> rfl
      | _ => rfl
    simp only [hsame] at hcount
    exact hcount.trans h.no_bare
  nodup := h.nodup
  admitted t ht := by
    obtain ⟨permit, hs⟩ := isAdmitted_iff.mp (h.admitted t ht)
    refine isAdmitted_iff.mpr ⟨permit, ?_⟩
    exact (Keyed.find_map ..).trans (congrArg (Option.map _) hs)
  bound := by
    have hcount := s.pool.seats.countP_map (Stage.afterClosing closed) Stage.isHolding
    have hsame : ∀ x : Stage, (x.afterClosing closed).isHolding = x.isHolding := fun x => by
      cases x <;> rfl
    simp only [hsame] at hcount
    have hlent : (s.pool.noteClosed closed).lent = s.pool.lent := hcount
    have hidle : (s.pool.noteClosed closed).idle.length = s.pool.idle.length := List.length_map _
    show (s.pool.noteClosed closed).idle.length + (s.pool.noteClosed closed).lent + _ ≤ _
    rw [hlent, hidle]
    exact h.bound

/-- There are fewer idle connections. -/
theorem withIdle (h : s.Strict) {idle : List Idle} (hi : idle.length ≤ s.pool.idle.length) :
    Strict ⟨{ s.pool with idle }, s.opening⟩ where
  no_bare := h.no_bare
  nodup := h.nodup
  admitted := h.admitted
  bound := by
    have hbound := h.bound
    show idle.length + s.pool.lent + s.opening.length ≤ s.pool.limits.maxConnections
    omega

/-- Fewer are opening a connection. -/
theorem withOpening (h : s.Strict) (ho : opening.Sublist s.opening) :
    Strict ⟨s.pool, opening⟩ where
  no_bare := h.no_bare
  nodup := ho.nodup h.nodup
  admitted t ht := h.admitted t (ho.subset ht)
  bound := Nat.le_trans (Nat.add_le_add_left ho.length_le _) h.bound

/-- An event that does nothing to the pool. -/
theorem nothing (h : s.Strict) (hp : Sound s.pool s.pool.limits.maxConnections) {e : Event}
    (hfine : e.isFine = true) (he : s.admits e = true) :
    Strict ⟨s.pool, s.openingAfter e⟩ := by
  cases e with
  | findNone t =>
    simp only [openingAfter]
    split
    · next hnone =>
      obtain ⟨hadmitted, hidle⟩ := Bool.and_eq_true_iff.mp hnone
      exact h.findNone hp (of_decide_eq_true he) hadmitted (List.isEmpty_iff.mp hidle)
    · exact h
  | opened t => exact h.withOpening List.erase_sublist
  | leave t => exact h.withOpening List.erase_sublist
  | take t now => exact absurd hfine Bool.false_ne_true
  | release t now => exact absurd hfine Bool.false_ne_true
  | _ => exact h

theorem step (h : s.Strict) (hp : Sound s.pool s.pool.limits.maxConnections)
    (hfail : s.pool.limits.onTimeout = .fail) {e : Event} (hfine : e.isFine = true)
    (he : s.admits e = true) : (s.step e).Strict := by
  have hchange := e.change s.pool hfine
  show Strict ⟨e.effect s.pool, s.openingAfter e⟩
  generalize e.effect s.pool = q at hchange
  have hnot : ∀ t, t ∉ s.opening.erase t := fun t => h.nodup.not_mem_erase
  cases hchange with
  | nothing => exact h.nothing hp hfine he
  | letIn => exact h.seat hp rfl rfl _ _
  | queue => exact h.seat hp rfl rfl _ _
  | grantLate => exact h.seat hp rfl rfl _ _
  | enter hs =>
    exact h.setStage hs (.admitted true) rfl (.refl _) (h.not_opening hs rfl) _ _ (Nat.le_refl _)
  | @refuse t hs =>
    -- Who is refused leaves, like all who wait.
    have hleave : s.pool.leave t
        = { s.pool with pending := s.pool.pending - 1, seats := s.pool.seats.erase t } := by
      simp [Pool.leave, hs, Stage.isPending, Stage.hasPermit]
    rw [← hleave]
    exact h.leave hp hs (.refl _) (h.not_opening hs rfl)
  | passOver _ hto => exact absurd (hto.symm.trans hfail) (by decide)
  | giveUp hs => exact h.leave hp hs (.refl _) (h.not_opening hs rfl)
  | goBare _ hto => exact absurd (hto.symm.trans hfail) (by decide)
  | @draw t permit i rest hs hi =>
    refine h.setStage hs (.holding permit i.connection) (Stage.isBare_holding ..) (.refl _)
      (of_decide_eq_true he) _ _ ?_
    rw [hi]
    exact Nat.le_refl _
  | @discard t permit c hs =>
    exact h.setStage hs (.admitted permit) (Stage.isBare_holding ..).symm (.refl _)
      (h.not_opening hs rfl) _ _ (Nat.add_le_add_right (Nat.le_succ _) _)
  | @opened t permit hs =>
    refine h.setStage hs (.holding permit _) (Stage.isBare_holding ..) List.erase_sublist (hnot _)
      _ _ ?_
    -- One more is lent, and one less is being opened.
    have hmem : t ∈ s.opening := of_decide_eq_true he
    have hpos := List.length_pos_of_mem hmem
    have hlen := List.length_erase_of_mem hmem
    show s.pool.idle.length + 1 + (s.opening.erase t).length
      ≤ s.pool.idle.length + 0 + s.opening.length
    omega
  | @putBack t now permit c hs =>
    -- The connection is idle afterwards, or it is closed.
    unfold keep
    split
    · refine h.setStage hs (.admitted permit) (Stage.isBare_holding ..).symm (.refl _)
        (h.not_opening hs rfl) _ _ ?_
      have hle := List.length_take_le' s.pool.limits.maxConnections (⟨c, now⟩ :: s.pool.idle)
      rw [List.length_cons] at hle
      exact Nat.add_le_add_right hle s.opening.length
    · refine h.setStage hs (.admitted permit) (Stage.isBare_holding ..).symm (.refl _)
        (h.not_opening hs rfl) _ _ ?_
      exact Nat.add_le_add_right (Nat.le_succ _) _
  | leave hs => exact h.leave hp hs List.erase_sublist (hnot _)
  | evict => exact h.withIdle (List.length_filter_le _ _)
  | noteClosed => exact h.noteClosed _

end Session.Strict

theorem strict_start (limits : Limits) (authority : String) :
    (Session.start limits authority).Strict where
  no_bare := rfl
  nodup := List.nodup_nil
  admitted := by simp [Session.start]
  bound := Nat.zero_le _

/-- In a pool where a wait that lasts too long fails, nobody is without a permit. -/
theorem Reached.strict {limits : Limits} {authority : String} {s : Session}
    (h : Reached limits authority s) (hfail : limits.onTimeout = .fail) : s.Strict := by
  have hboth := Reached.invariant
    (I := fun s => (s.pool.limits = limits ∧ Sound s.pool limits.maxConnections) ∧ s.Strict) ?_
    ⟨⟨rfl, sound_create limits authority⟩, strict_start limits authority⟩ h
  · exact hboth.2
  rintro s e hfine he ⟨⟨rfl, hp⟩, hs⟩
  have hchange := e.change s.pool hfine
  exact ⟨⟨hchange.limits, hp.change hchange⟩, hs.step hp hfail hfine he⟩

/-- **The bounds of a pool.** Whatever is done to it, in whatever order, the permits that are held
and those that are available are as many as connections may be lent, and there are no more idle
connections than that. If a wait that lasts too long fails, there are no more connections at all,
idle, lent or being opened. -/
theorem connections_bounded {limits : Limits} {authority : String} {s : Session}
    (h : Reached limits authority s) :
    s.pool.held + s.pool.available = limits.maxConnections ∧
      s.pool.inUse = s.pool.held ∧ s.pool.available ≤ limits.maxConnections ∧
      s.pool.idle.length ≤ limits.maxConnections ∧
      (limits.onTimeout = .fail →
        s.pool.idle.length + s.pool.lent + s.opening.length ≤ limits.maxConnections) := by
  obtain ⟨hl, hp⟩ := h.sound
  have hbal := hp.balance
  have hidle := hp.idle_le
  rw [hl] at hidle
  refine ⟨hbal, ?_, by omega, hidle, fun hfail => ?_⟩
  · rw [inUse, hl]
    omega
  · have hbound := (h.strict hfail).bound
    rwa [hl] at hbound

/-- Two connections may be lent. Both are opened and someone waits; one comes back, and its permit
goes to who waits. The other one is given up, and someone new is admitted while the first one is
idle. -/
theorem connections_bounded_two :
    let limits : Limits := ⟨2, 1, 1000000, .fail, 1000000, 1000000⟩
    let events := [.ask, .ask, .ask, .take 0 0, .findNone 1, .opened 0, .opened 1, .release 0 5,
      .leave 1, .enter 2, .ask]
    let s := (Session.start limits "backend:80").run events
    Reached limits "backend:80" s ∧ s.pool.held = 2 ∧ s.pool.idle.length = 1 ∧
      s.pool.idle.length + s.pool.lent + s.opening.length ≤ 2 := by
  intro limits events s
  have hs : Reached limits "backend:80" s := .run events .start (by decide +kernel)
  have h := connections_bounded hs
  exact ⟨hs, by decide +kernel, by decide +kernel, h.2.2.2.2 rfl⟩

end HttpGateway.Pool
