/-
Who waits for a permit of a pool.

* **pends** — whether the wait of someone counts.
* **Event.beginsWait**, **Event.endsWait** — the events with which a wait begins, and those with
  which it ends: note is taken of the permit, the time is up, or the one who waits leaves.
* **Moves** — a change of the wait of one, and of nobody else.
* **Turn** — what an event does to the queue: nothing, or one wait begins or ends. `Event.turn` says
  that there is no more to it.
* **Session.Counted** — the counter is the number of those who wait, and it is not too large.
* `ended_add_pends` — along a run a wait ends once, or it is not over.
* `waits_accounted` — all of that, for every session that can be reached, and who is refused.

A wait is counted before it is known whether there is room for it, and that it counts no longer is
noted wherever it ends, by whatever way. A way that forgets this would leave the counter above the
number of those who wait for good, and the queue would be shorter by one.
-/
import HttpGateway.Proofs.Pool.Seats
import HttpGateway.Simulation.Connecting

namespace HttpGateway.Pool

variable {p q r : Pool} {s : Session} {e : Event} {t t' n : Nat} {a b c : Bool} {x y : Stage}

/-! ### Waits -/

/-- Whether the wait of someone counts. -/
def pends (p : Pool) (ticket : Nat) : Bool := (p.stage? ticket).any Stage.isPending

namespace Event

/-- Whether a wait begins with an event. -/
def beginsWait (p : Pool) : Event → Bool
  | ask => p.available = 0 && p.pending < p.limits.maxPending
  | askLate => 0 < p.available && p.pending < p.limits.maxPending
  | _ => false

/-- Whether the wait of someone ends with an event. -/
def endsWait (p : Pool) (ticket : Nat) : Event → Bool
  | enter t | lapse t => t = ticket && p.stage? t = some .granted
  | expire t => t = ticket && p.stage? t = some .waiting
  | leave t => t = ticket && p.pends t
  | _ => false

/-- How far someone is whose wait has ended with an event. -/
def stageAfterWait (limits : Limits) : Event → Option Stage
  | enter _ => some (.admitted true)
  | expire _ | lapse _ =>
    match limits.onTimeout with
    | .fail => none
    | .newConnection => some (.admitted false)
  | _ => none

/-- Whether an event is no business of those who wait. -/
def sparesQueue : Event → Bool
  | ask | askLate | enter _ | expire _ | lapse _ | leave _ => false
  | _ => true

end Event

/-- Between two states of a pool the wait of one changes from `a` to `b`, and that of nobody else
does. -/
structure Moves (p q : Pool) (ticket : Nat) (a b : Bool) : Prop where
  before : p.pends ticket = a
  after : q.pends ticket = b
  others : ∀ t, t ≠ ticket → q.pends t = p.pends t
  waiters : q.waiters + (if a then 1 else 0) = p.waiters + if b then 1 else 0

theorem pends_of_stage (hs : p.stage? t = some x) : p.pends t = x.isPending := by
  rw [pends, hs]
  rfl

theorem pends_congr (h : q.seats = p.seats) : q.pends t = p.pends t := by
  rw [pends, pends, stage?, stage?, h]

theorem waiters_congr (h : q.seats = p.seats) : q.waiters = p.waiters := by
  rw [waiters, waiters, h]

namespace Moves

/-- What becomes of the rest of the pool is of no account. -/
theorem congr {p' q' : Pool} (h : Moves p q t a b) (hp : p'.seats = p.seats)
    (hq : q'.seats = q.seats) : Moves p' q' t a b where
  before := (pends_congr hp).trans h.before
  after := (pends_congr hq).trans h.after
  others t' ht' := by rw [pends_congr hq, h.others t' ht', pends_congr hp]
  waiters := by rw [waiters_congr hq, waiters_congr hp, h.waiters]

theorem setStage (hs : p.stage? t = some x) (y : Stage) :
    Moves p (p.setStage t y) t x.isPending y.isPending where
  before := pends_of_stage hs
  after := pends_of_stage (Keyed.find_set_self ..)
  others t' ht' := by
    rw [pends, pends, stage?, stage?, Pool.setStage, Keyed.find_set_other _ (Ne.symm ht')]
  waiters := Keyed.countP_set hs y Stage.isPending

theorem seat (hfresh : p.seats.find p.nextTicket = none) (y : Stage) :
    Moves p (p.seat y) p.nextTicket false y.isPending where
  before := by rw [pends, stage?, hfresh]; rfl
  after := pends_of_stage (Keyed.find_set_self ..)
  others t' ht' := by
    rw [pends, pends, stage?, stage?, Pool.seat, Keyed.find_set_other _ (Ne.symm ht')]
  waiters := Keyed.countP_set_new hfresh y Stage.isPending

theorem erase (hp : p.seats.keys.Nodup) (hs : p.stage? t = some x) :
    Moves p { p with seats := p.seats.erase t } t x.isPending false where
  before := pends_of_stage hs
  after := by
    rw [pends, stage?, Keyed.find_erase_self]
    rfl
  others t' ht' := by
    rw [pends, pends, stage?, stage?, Keyed.find_erase_other _ (Ne.symm ht')]
  waiters := Keyed.countP_erase hp hs Stage.isPending

/-- A permit that is handed on does not end a wait. -/
theorem handOn (h : Moves p q t a b) (hq : q.seats.keys.Nodup) : Moves p q.handOn t a b := by
  have hpends : ∀ t', q.handOn.pends t' = q.pends t' := by
    intro t'
    rw [Pool.handOn]
    split
    · next w hw =>
      have hgrant := Moves.setStage (stage_of_firstWaiting hq hw) .granted
      by_cases ht' : t' = w
      · rw [ht', hgrant.before, hgrant.after]
        rfl
      · exact hgrant.others t' ht'
    · rfl
  have hwaiters : q.handOn.waiters = q.waiters := countP_handOn hq rfl
  exact ⟨h.before, (hpends t).trans h.after, fun t' ht' => (hpends t').trans (h.others t' ht'),
    hwaiters ▸ h.waiters⟩

theorem leave (hp : p.seats.keys.Nodup) (hs : p.stage? t = some x) :
    Moves p (p.leave t) t x.isPending false := by
  have hleft : ∀ k, Moves p { p with seats := p.seats.erase t, pending := k } t x.isPending false :=
    fun _ => (Moves.erase hp hs).congr rfl rfl
  rw [Pool.leave, hs]
  dsimp only
  split
  · exact (hleft _).handOn (Keyed.nodup_erase hp t)
  · exact hleft _

end Moves

theorem handOn_pending (p : Pool) : p.handOn.pending = p.pending := by
  unfold handOn
  split <;> rfl

theorem handOn_stage (hp : p.seats.keys.Nodup) (hs : p.stage? t = some x) (hx : x ≠ .waiting) :
    p.handOn.stage? t = some x := by
  unfold handOn
  split
  · next w hw =>
    have hne : w ≠ t := by
      rintro rfl
      rw [stage_of_firstWaiting hp hw] at hs
      exact hx (Option.some.inj hs).symm
    exact (Keyed.find_set_other _ hne _).trans hs
  · exact hs

theorem leave_stage (hp : p.seats.keys.Nodup) (t : Nat) : (p.leave t).stage? t = none := by
  refine Keyed.find_eq_none_iff.mpr ?_
  rw [leave_keys hp]
  simp

theorem leave_pending (hs : p.stage? t = some x) :
    (p.leave t).pending = if x.isPending then p.pending - 1 else p.pending := by
  rw [leave, hs]
  dsimp only
  split
  · exact handOn_pending _
  · rfl

theorem keep_pending (p : Pool) (k : Connection) (now : Instant) :
    (p.keep k now).pending = p.pending := by
  unfold keep
  split <;> rfl

theorem isPending_afterClosing (closed : Nat → Bool) (x : Stage) :
    (x.afterClosing closed).isPending = x.isPending := by
  cases x <;> rfl

/-- No wait begins or ends between two states of a pool. -/
structure Still (p q : Pool) : Prop where
  pends : ∀ t, q.pends t = p.pends t
  pending : q.pending = p.pending
  waiters : q.waiters = p.waiters

namespace Still

theorem refl (p : Pool) : Still p p := ⟨fun _ => rfl, rfl, rfl⟩

theorem of_seats (hseats : q.seats = p.seats) (hpending : q.pending = p.pending) : Still p q where
  pends _ := pends_congr hseats
  pending := hpending
  waiters := waiters_congr hseats

theorem of_moves (h : Moves p q t a a) (hpending : q.pending = p.pending) : Still p q where
  pends t' := by
    by_cases ht' : t' = t
    · rw [ht', h.before, h.after]
    · exact h.others t' ht'
  pending := hpending
  waiters := Nat.add_right_cancel h.waiters

/-- Someone whose wait is over goes on. -/
theorem of_stage (hs : p.stage? t = some x) (hx : x.isPending = false) (hy : y.isPending = false)
    (hseats : q.seats = p.seats.set t y) (hpending : q.pending = p.pending) : Still p q := by
  have hmoves := (Moves.setStage hs y).congr rfl hseats
  rw [hx, hy] at hmoves
  exact of_moves hmoves hpending

end Still

/-! ### What an event does to the queue -/

/-- With an event no more than one wait ends. -/
theorem Event.endsWait_unique (h : e.endsWait p t' = true) (hne : t ≠ t') :
    e.endsWait p t = false := by
  cases e with
  | enter w | expire w | lapse w | leave w =>
    obtain rfl : w = t' := of_decide_eq_true (Bool.and_eq_true_iff.mp h).1
    simp [endsWait, Ne.symm hne]
  | _ => exact absurd h Bool.false_ne_true

/-- What an event does to those who wait. -/
inductive Turn (p : Pool) (e : Event) (q : Pool) : Prop
  | same (hbegins : e.beginsWait p = false) (hends : ∀ t, e.endsWait p t = false) (h : Still p q)
  | begins (hbegins : e.beginsWait p = true) (hends : ∀ t, e.endsWait p t = false)
      (h : Moves p q p.nextTicket false true) (hpending : q.pending = p.pending + 1)
  | ends (t : Nat) (hbegins : e.beginsWait p = false) (hends : e.endsWait p t = true)
      (h : Moves p q t true false) (hpending : q.pending = p.pending - 1)
      (hstage : q.stage? t = e.stageAfterWait p.limits)

theorem turn_ask (hp : Sound p n) : Turn p .ask p.ask.2 := by
  rw [ask]
  split
  · next ha =>
    refine .same ?_ (fun _ => rfl) (Still.of_moves (t := p.nextTicket) (a := false) ?_ rfl)
    · simp only [Event.beginsWait, Nat.pos_iff_ne_zero.mp ha]
      rfl
    · exact (Moves.seat (find_nextTicket hp.fresh) (.admitted true)).congr rfl rfl
  split
  · next ha hroom =>
    refine .begins ?_ (fun _ => rfl) ?_ rfl
    · have hnone : p.available = 0 := by omega
      simp only [Event.beginsWait, hnone, hroom]
      rfl
    · exact (Moves.seat (find_nextTicket hp.fresh) .waiting).congr rfl rfl
  · next ha hroom =>
    refine .same ?_ (fun _ => rfl) (.refl p)
    simp only [Event.beginsWait, hroom]
    rw [decide_false, Bool.and_false]

theorem turn_askLate (hp : Sound p n) : Turn p .askLate p.askLate := by
  rw [askLate]
  split
  · next h =>
    refine .begins ?_ (fun _ => rfl) ?_ rfl
    · simpa [Event.beginsWait] using h
    · exact (Moves.seat (find_nextTicket hp.fresh) .granted).congr rfl rfl
  · next h =>
    refine .same ?_ (fun _ => rfl) (.refl p)
    simpa [Event.beginsWait] using h

theorem turn_enter (p : Pool) (t : Nat) : Turn p (.enter t) (p.enter t) := by
  rw [enter]
  split
  · next hs =>
    refine .ends t rfl ?_ ((Moves.setStage hs (.admitted true)).congr rfl rfl) rfl
      (Keyed.find_set_self ..)
    simp [Event.endsWait, hs]
  · next hs =>
    have hnot : ¬ p.stage? t = some .granted := hs
    exact .same rfl (fun t' => by simp [Event.endsWait, hnot]) (.refl p)

theorem turn_expire (hp : p.seats.keys.Nodup) (t : Nat) :
    Turn p (.expire t) (p.expire t).2 := by
  rw [expire]
  split
  · next hs =>
    have hends : (Event.expire t).endsWait p t = true := by simp [Event.endsWait, hs]
    dsimp only
    split
    · next hto =>
      refine .ends t rfl hends ((Moves.erase hp hs).congr rfl rfl) rfl ?_
      rw [Event.stageAfterWait, hto]
      exact Keyed.find_erase_self ..
    · next hto =>
      refine .ends t rfl hends ((Moves.setStage hs (.admitted false)).congr rfl rfl) rfl ?_
      rw [Event.stageAfterWait, hto]
      exact Keyed.find_set_self ..
  · next hs =>
    have hnot : ¬ p.stage? t = some .waiting := hs
    exact .same rfl (fun t' => by simp [Event.endsWait, hnot]) (.refl p)

theorem turn_lapse (hp : p.seats.keys.Nodup) (t : Nat) : Turn p (.lapse t) (p.lapse t) := by
  by_cases hs : p.stage? t = some .granted
  · have hends : (Event.lapse t).endsWait p t = true := by simp [Event.endsWait, hs]
    cases hto : p.limits.onTimeout with
    | fail =>
      have hlapse : p.lapse t = p.leave t := by rw [lapse, hs, hto]
      rw [hlapse]
      refine .ends t rfl hends (Moves.leave hp hs) (leave_pending hs) ?_
      rw [Event.stageAfterWait, hto]
      exact leave_stage hp t
    | newConnection =>
      -- The permit came too late and is handed on; the wait of whoever gets it is not over by that.
      have hlapse : p.lapse t
          = ({ p with pending := p.pending - 1 }.setStage t (.admitted false)).handOn := by
        rw [lapse, hs, hto]
      rw [hlapse]
      refine .ends t rfl hends ?_ (handOn_pending _) ?_
      · have hmoves : Moves p ({ p with pending := p.pending - 1 }.setStage t (.admitted false)) t
            true false := (Moves.setStage hs (.admitted false)).congr rfl rfl
        exact hmoves.handOn (Keyed.nodup_set hp ..)
      · rw [Event.stageAfterWait, hto]
        exact handOn_stage (Keyed.nodup_set hp ..) (Keyed.find_set_self ..) Stage.noConfusion
  · have hlapse : p.lapse t = p := by
      unfold lapse
      split <;> first | rfl | contradiction
    rw [hlapse]
    exact .same rfl (fun t' => by simp [Event.endsWait, hs]) (.refl p)

theorem turn_leave (hp : p.seats.keys.Nodup) (t : Nat) : Turn p (.leave t) (p.leave t) := by
  cases hs : p.stage? t with
  | none =>
    have hleave : p.leave t = p := by rw [leave, hs]
    rw [hleave]
    exact .same rfl (fun t' => by simp [Event.endsWait, pends, hs]) (.refl p)
  | some x =>
    have hmoves := Moves.leave hp hs
    have hpending := leave_pending hs
    cases hx : x.isPending with
    | true =>
      rw [hx] at hmoves hpending
      refine .ends t rfl ?_ hmoves hpending ?_
      · simp [Event.endsWait, pends, hs, hx]
      · exact leave_stage hp t
    | false =>
      rw [hx] at hmoves hpending
      exact .same rfl (fun t' => by simp [Event.endsWait, pends, hs, hx])
        (.of_moves hmoves hpending)

/-- A connection that is closed makes no difference to who waits. -/
theorem still_noteClosed (p : Pool) (closed : Nat → Bool) : Still p (p.noteClosed closed) where
  pends t := by
    have hfind : (p.noteClosed closed).stage? t = (p.stage? t).map (Stage.afterClosing closed) :=
      Keyed.find_map ..
    rw [pends, pends, hfind, Option.any_map]
    congr 1
    funext x
    exact isPending_afterClosing closed x
  pending := rfl
  waiters := by
    have hcount := p.seats.countP_map (Stage.afterClosing closed) Stage.isPending
    simp only [isPending_afterClosing] at hcount
    exact hcount

/-- What those do who have been let in has nothing to do with the queue. -/
theorem Change.still (hq : Change p e q) (he : e.sparesQueue = true) : Still p q := by
  cases hq with
  | nothing => exact .refl p
  | draw hs => exact .of_stage hs rfl rfl rfl rfl
  | discard hs => exact .of_stage hs rfl rfl rfl rfl
  | opened hs => exact .of_stage hs rfl rfl rfl rfl
  | @putBack t now permit k hs =>
    have hseats : ((p.keep k now).setStage t (.admitted permit)).seats
        = p.seats.set t (.admitted permit) := by rw [setStage, keep_seats]
    exact .of_stage hs rfl rfl hseats (keep_pending ..)
  | evict => exact .of_seats rfl rfl
  | noteClosed => exact still_noteClosed ..
  | _ => exact absurd he Bool.false_ne_true

theorem turn_take (p : Pool) (t : Nat) (now : Instant) :
    Turn p (.take t now) (p.take t now).2 := by
  refine .same rfl (fun _ => rfl) ?_
  rw [take]
  split
  · next permit hs =>
    split
    · exact .of_stage hs rfl rfl rfl rfl
    · exact .of_seats rfl rfl
  · exact .refl p

theorem turn_release (hp : p.seats.keys.Nodup) (t : Nat) (now : Instant) :
    Turn p (.release t now) (p.release t now) := by
  refine .same rfl (fun _ => rfl) ?_
  rw [release]
  split
  · next permit c hs =>
    have hkept : (p.keep c now).stage? t = some (.holding permit c) := (keep_stage ..).trans hs
    have hnodup : (p.keep c now).seats.keys.Nodup := by rwa [keep_seats]
    refine .of_moves ((Moves.leave hnodup hkept).congr (keep_seats ..).symm rfl) ?_
    exact (leave_pending hkept).trans (keep_pending ..)
  · exact .refl p

/-- **One turn**: with each event one wait begins, or one ends, or none does either. -/
theorem Event.turn (hp : Sound p n) (e : Event) : Turn p e (e.effect p) := by
  cases e with
  | ask => exact turn_ask hp
  | askLate => exact turn_askLate hp
  | enter t => exact turn_enter p t
  | expire t => exact turn_expire hp.nodup t
  | lapse t => exact turn_lapse hp.nodup t
  | leave t => exact turn_leave hp.nodup t
  | take t now => exact turn_take p t now
  | release t now => exact turn_release hp.nodup t now
  | draw t => exact .same rfl (fun _ => rfl) ((change p rfl).still rfl)
  | discard t => exact .same rfl (fun _ => rfl) ((change p rfl).still rfl)
  | findNone t => exact .same rfl (fun _ => rfl) (.refl p)
  | opened t => exact .same rfl (fun _ => rfl) ((change p rfl).still rfl)
  | putBack t now => exact .same rfl (fun _ => rfl) ((change p rfl).still rfl)
  | evict now => exact .same rfl (fun _ => rfl) ((change p rfl).still rfl)
  | noteClosed closed => exact .same rfl (fun _ => rfl) ((change p rfl).still rfl)

/-! ### The counter -/

/-- The counter tells how many wait, and these are not too many. -/
structure Counted (p : Pool) : Prop where
  exact : p.pending = p.waiters
  bounded : p.waiters ≤ p.limits.maxPending

/-- A wait begins only where there is room for it. -/
theorem Event.room_of_beginsWait (h : e.beginsWait p = true) :
    p.pending < p.limits.maxPending := by
  cases e with
  | ask => exact of_decide_eq_true (Bool.and_eq_true_iff.mp h).2
  | askLate => exact of_decide_eq_true (Bool.and_eq_true_iff.mp h).2
  | _ => exact absurd h Bool.false_ne_true

theorem Turn.counted (h : Turn p e q) (hp : Counted p) (hlimits : q.limits = p.limits) :
    Counted q := by
  have hexact := hp.exact
  have hbounded := hp.bounded
  cases h with
  | same _ _ h =>
    have hpending := h.pending
    have hwaiters := h.waiters
    exact ⟨by omega, by rw [hlimits]; omega⟩
  | begins hbegins _ h hpending =>
    have hwaiters := h.waiters
    have hroom := Event.room_of_beginsWait hbegins
    simp only [Bool.false_eq_true, if_false, if_true] at hwaiters
    exact ⟨by omega, by rw [hlimits]; omega⟩
  | ends t _ _ h hpending =>
    have hwaiters := h.waiters
    simp only [Bool.false_eq_true, if_false, if_true] at hwaiters
    exact ⟨by omega, by rw [hlimits]; omega⟩

/-- Whoever waits no longer has been counted until then. -/
theorem Turn.pending_of_ends (h : Turn p e q) (hp : Counted p) (hends : e.endsWait p t = true) :
    q.pending + 1 = p.pending := by
  have hexact := hp.exact
  cases h with
  | same _ hnone => rw [hnone t] at hends; cases hends
  | begins _ hnone => rw [hnone t] at hends; cases hends
  | ends t' _ _ h hpending =>
    have hwaiters := h.waiters
    simp only [Bool.false_eq_true, if_false, if_true] at hwaiters
    omega

theorem Reached.counted {limits : Limits} {authority : String} (h : Reached limits authority s) :
    Counted s.pool := by
  -- What a turn does to the counter can be told only where every ticket has one seat at most.
  have hboth := Reached.invariant
    (I := fun s => Sound s.pool limits.maxConnections ∧ Counted s.pool) ?_
    ⟨sound_create limits authority, rfl, Nat.zero_le _⟩ h
  · exact hboth.2
  rintro s e hfine - ⟨hp, hcounted⟩
  have hchange := e.change s.pool hfine
  exact ⟨hp.change hchange, (e.turn hp).counted hcounted hchange.limits⟩

/-! ### Runs -/

namespace Session

/-- How many times the wait of someone ends in a run. -/
def ended (ticket : Nat) (s : Session) : List Event → Nat
  | [] => 0
  | e :: rest => (if e.endsWait s.pool ticket then 1 else 0) + (s.step e).ended ticket rest

end Session

theorem handOn_nextTicket (p : Pool) : p.handOn.nextTicket = p.nextTicket := by
  unfold handOn
  split <;> rfl

theorem leave_nextTicket (p : Pool) (t : Nat) : (p.leave t).nextTicket = p.nextTicket := by
  unfold leave
  split
  · rfl
  · dsimp only
    split
    · exact handOn_nextTicket _
    · rfl

theorem keep_nextTicket (p : Pool) (k : Connection) (now : Instant) :
    (p.keep k now).nextTicket = p.nextTicket := by
  unfold keep
  split <;> rfl

/-- Whoever asks gets a new ticket or none. -/
theorem Change.nextTicket_le (hq : Change p e q) : p.nextTicket ≤ q.nextTicket := by
  cases hq with
  | letIn => exact Nat.le_succ _
  | queue => exact Nat.le_succ _
  | grantLate => exact Nat.le_succ _
  | giveUp => exact (leave_nextTicket ..).ge
  | goBare =>
    rw [handOn_nextTicket]
    exact Nat.le_refl _
  | leave => exact (leave_nextTicket ..).ge
  | putBack => exact (keep_nextTicket ..).ge
  | _ => exact Nat.le_refl _

/-- A ticket that was given out is not given out again. -/
theorem nextTicket_le (p : Pool) (e : Event) : p.nextTicket ≤ (e.effect p).nextTicket := by
  cases e with
  | take t now =>
    rw [Event.effect, take]
    split
    · split <;> exact Nat.le_refl _
    · exact Nat.le_refl _
  | release t now =>
    rw [Event.effect, release]
    split
    · rw [leave_nextTicket, keep_nextTicket]
    · exact Nat.le_refl _
  | _ => exact (Event.change p rfl).nextTicket_le

/-- What an event does to the wait of someone who has a ticket. -/
theorem Turn.pends (h : Turn p e q) (ht : t < p.nextTicket) :
    (if e.endsWait p t then 1 else 0) + (if q.pends t then 1 else 0)
      = if p.pends t then 1 else 0 := by
  cases h with
  | same _ hends h => rw [hends t, h.pends t, if_neg Bool.false_ne_true, Nat.zero_add]
  | begins _ hends h =>
    rw [hends t, h.others t (Nat.ne_of_lt ht), if_neg Bool.false_ne_true, Nat.zero_add]
  | ends t' _ hends h =>
    by_cases heq : t = t'
    · rw [heq, hends, h.after, h.before]
      rfl
    · rw [h.others t heq, Event.endsWait_unique hends heq, if_neg Bool.false_ne_true, Nat.zero_add]

/-- Whoever waits goes on doing so until it ends, and whoever does not wait does not begin to. -/
theorem ended_add_pends {limits : Limits} {authority : String} (t : Nat) (events : List Event) :
    ∀ {s : Session}, Reached limits authority s → s.canRun events = true →
      t < s.pool.nextTicket →
      s.ended t events + (if (s.run events).pool.pends t then 1 else 0)
        = if s.pool.pends t then 1 else 0 := by
  induction events with
  | nil => exact fun _ _ _ => Nat.zero_add _
  | cons e rest ih =>
    intro s h hrun ht
    obtain ⟨he, hrest⟩ := Bool.and_eq_true_iff.mp hrun
    have hnext := ih (h.step he) hrest (Nat.lt_of_lt_of_le ht (nextTicket_le s.pool e))
    have hstep := (e.turn h.sound.2).pends ht
    rw [Session.ended, Session.run, Nat.add_assoc, hnext]
    exact hstep

/-! ### Those who are refused -/

/-- One more wait is counted. -/
def counting (p : Pool) : Pool := { p with pending := p.pending + 1 }

/-- A wait may be counted before it is known whether there is room for it. -/
theorem ask_counting (ha : p.available = 0) :
    p.ask = if p.pending < p.limits.maxPending then
        (.queued p.nextTicket, p.counting.seat .waiting)
      else (.refused, { p.counting with pending := p.counting.pending - 1 }) := by
  rw [ask, if_neg (by omega)]
  rfl

theorem ask_of_full (ha : p.available = 0) (hfull : p.pending = p.limits.maxPending) :
    p.ask = (.refused, p) := by
  rw [ask_counting ha, if_neg (by omega)]
  rfl

theorem ask_refused_iff (hp : Counted p) :
    p.ask.1 = .refused ↔ p.available = 0 ∧ p.waiters = p.limits.maxPending := by
  have hexact := hp.exact
  have hbounded := hp.bounded
  rw [ask]
  split
  · next ha => exact iff_of_false (by simp) (by omega)
  split
  · next ha hroom => exact iff_of_false (by simp) (by omega)
  · next ha hroom => exact iff_of_true rfl (by omega)

/-- An attempt to get a connection fails at once for who is refused. -/
theorem start_of_full {site : Simulation.Site} (ha : site.pool.available = 0)
    (hfull : site.pool.pending = site.pool.limits.maxPending) (now : Instant) :
    site.start now = (.failed (.poolExhausted site.pool.authority), site) := by
  rw [Simulation.Site.start, ask_of_full ha hfull]
  rfl

/-- **The queue of a pool.** The counter tells how many wait, and there are never too many of them.
Whoever finds no permit while as many wait as may is refused at once, and all stays as it is; nobody
else is refused. With each event one wait begins, or one ends, or none does; it ends when the permit
comes, when the time is up, or when it is given up. And along a run the wait of whoever has a ticket
ends once, or it is not over. -/
theorem waits_accounted {limits : Limits} {authority : String} (h : Reached limits authority s) :
    s.pool.pending = s.pool.waiters ∧ s.pool.waiters ≤ limits.maxPending ∧
      (s.pool.ask.1 = .refused ↔ s.pool.available = 0 ∧ s.pool.waiters = limits.maxPending) ∧
      (s.pool.available = 0 → s.pool.waiters = limits.maxPending →
        s.pool.ask = (.refused, s.pool) ∧
        ∀ (site : Simulation.Site) (now : Instant), site.pool = s.pool →
          site.start now = (.failed (.poolExhausted authority), site)) ∧
      (∀ e, Turn s.pool e (s.step e).pool) ∧
      (∀ e t, e.endsWait s.pool t = true → (s.step e).pool.pending + 1 = s.pool.pending) ∧
      ∀ t events, t < s.pool.nextTicket → s.canRun events = true →
        s.ended t events + (if (s.run events).pool.pends t then 1 else 0)
          = if s.pool.pends t then 1 else 0 := by
  obtain ⟨hlimits, hp⟩ := h.sound
  have hcounted := h.counted
  have hbounded := hcounted.bounded
  have hrefused := ask_refused_iff hcounted
  rw [hlimits] at hbounded hrefused
  refine ⟨hcounted.exact, hbounded, hrefused, fun ha hfull => ?_, fun e => e.turn hp,
    fun e t hends => (e.turn hp).pending_of_ends hcounted hends,
    fun t events ht hrun => ended_add_pends t events h hrun ht⟩
  have hpending : s.pool.pending = s.pool.limits.maxPending := by
    rw [hcounted.exact, hlimits, hfull]
  refine ⟨ask_of_full ha hpending, fun site now hsite => ?_⟩
  rw [start_of_full (hsite ▸ ha) (hsite ▸ hpending), hsite, h.authority]

/-- One connection and room for two who wait. The third one is refused. Of the two one leaves, and
the time of the other one is up, who goes on without a permit; a third wait is over just when its
permit has come. -/
theorem waits_accounted_three_ways :
    let limits : Limits := ⟨1, 2, 1000000, .newConnection, 1000000, 1000000⟩
    let s := (Session.start limits "backend:80").run [.ask, .ask, .ask]
    let rest := [.ask, .leave 2, .ask, .expire 1, .leave 0, .lapse 3]
    Reached limits "backend:80" s ∧ s.pool.pending = 2 ∧ s.pool.ask = (.refused, s.pool) ∧
      s.ended 1 rest = 1 ∧ s.ended 2 rest = 1 ∧ (s.run rest).pool.pending = 0 ∧
      (s.run rest).pool.available = 1 := by
  intro limits s rest
  have hs : Reached limits "backend:80" s := .run [.ask, .ask, .ask] .start (by decide +kernel)
  obtain ⟨-, -, -, hrefused, -, -, hended⟩ := waits_accounted hs
  have hfull := hrefused (by decide +kernel) (by decide +kernel)
  have hrun : s.canRun rest = true := by decide +kernel
  have honce : ∀ t < s.pool.nextTicket, s.pool.pends t = true →
      (s.run rest).pool.pends t = false → s.ended t rest = 1 := by
    intro t ht hbefore hafter
    have ht' := hended t rest ht hrun
    rwa [hbefore, hafter, if_neg Bool.false_ne_true, if_pos rfl, Nat.add_zero] at ht'
  refine ⟨hs, by decide +kernel, hfull.1, ?_, ?_, by decide +kernel, by decide +kernel⟩
  · exact honce 1 (by decide +kernel) (by decide +kernel) (by decide +kernel)
  · exact honce 2 (by decide +kernel) (by decide +kernel) (by decide +kernel)

end HttpGateway.Pool
