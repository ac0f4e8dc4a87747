/-
Exchanges that are made on one pool at the same time.

* **attempt** — the outcome of a request on a connection: it may not even be possible to send it.
* **Traffic** — a pool in use, with the exchanges that are in progress, and the connections whose
  exchange has failed. What the pool does depends on neither.
* **Step**, **Reached** — the way of an exchange, step by step, with those of all others in between.
* **Accounted** — whoever has a seat is in an exchange, and a connection whose exchange has failed
  is nowhere; every step keeps that.
* **Settled** — how an exchange leaves the pool.
* `exchange_settled` — however an exchange ends, its permit is given back, and its connection is
  idle only after a complete response that does not ask to close it, and if it is still open.
-/
import HttpGateway.Forward.Exchange
import HttpGateway.Forward.Outbound
import HttpGateway.Proofs.Pool.Places
import HttpGateway.Proofs.Pool.Seats

namespace HttpGateway.Forward

open Http Pool

/-- The outcome of a request on a connection, by what happens there. One that cannot be sent is not
handed to the connection at all. -/
def attempt (x : Terms) (r : Outbound) (s : Schedule) : Except RequestError Response :=
  match r.target with
  | .error e => .error e
  | .ok _ => (exchange x s).outcome

theorem settle_eq_effect (p : Pool) (t : Nat) (now : Instant)
    (outcome : Except RequestError Response) :
    settle p t now outcome
      = (if reusable outcome then Event.release t now else Event.leave t).effect p := by
  unfold settle
  split <;> rfl

/-- A connection can be used again after a complete response whose first `Connection` line is not
`close`. -/
theorem reusable_iff {outcome : Except RequestError Response} :
    reusable outcome = true ↔
      ∃ r, outcome = .ok r ∧ ∀ v, r.fields.text? "connection" = some v → v.toLower ≠ "close" := by
  cases outcome with
  | error e => simp [reusable]
  | ok r => simp [reusable, asksToClose, Option.any_eq_false]

/-- Exchanges on one pool. `underWay` are the tickets of those in progress: from the moment at which
someone gets a ticket until the connection is given back, or all is given up. `spoilt` are the
connections whose exchange has failed. -/
structure Traffic where
  session : Session
  underWay : List Nat
  spoilt : List Nat

namespace Traffic

/-- The pool on which the exchanges are made. -/
def pool (x : Traffic) : Pool := x.session.pool

/-- A new pool. -/
def start (limits : Limits) (authority : String) : Traffic := ⟨.start limits authority, [], []⟩

/-- An exchange has ended. -/
def ended (x : Traffic) (t : Nat) (c : Connection) (now : Instant)
    (outcome : Except RequestError Response) : Traffic where
  session := ⟨settle x.pool t now outcome, x.session.opening⟩
  underWay := x.underWay.filter (· ≠ t)
  spoilt := if outcome.isOk then x.spoilt else c.id :: x.spoilt

/-- What someone may do who has a ticket and wants a connection. A wait that has lasted too long
goes on without a permit only where that is allowed; otherwise it is given up. -/
def seeks (p : Pool) (t : Nat) : Event → Bool
  | .enter t' | .take t' _ | .draw t' | .discard t' | .findNone t' | .opened t' => t' = t
  | .expire t' | .lapse t' => t' = t ∧ p.limits.onTimeout = .newConnection
  | _ => false

/-- One step of one exchange, or of none. -/
inductive Step (x : Traffic) : Traffic → Prop
  | begins {t} : x.pool.ask.1 = .admitted t ∨ x.pool.ask.1 = .queued t →
      Step x { x with session := x.session.step .ask, underWay := t :: x.underWay }
  | beginsLate : 0 < x.pool.available → x.pool.pending < x.pool.limits.maxPending →
      Step x { x with
        session := x.session.step .askLate
        underWay := x.pool.nextTicket :: x.underWay }
  | seeks {t e} : t ∈ x.underWay → seeks x.pool t e = true → x.session.admits e = true →
      Step x { x with session := x.session.step e }
  | givesUp {t} : t ∈ x.underWay →
      Step x { x with
        session := x.session.step (.leave t)
        underWay := x.underWay.filter (· ≠ t) }
  | givesBack {t permit c now r outbound schedule terms} : t ∈ x.underWay →
      x.pool.stage? t = some (.holding permit c) → attempt terms outbound schedule = .ok r →
      asksToClose r.fields = false →
      Step x { x with session := x.session.step (.putBack t now) }
  | ends {t permit c} (now : Instant) (terms : Terms) (outbound : Outbound) (schedule : Schedule) :
      t ∈ x.underWay → x.pool.stage? t = some (.holding permit c) →
      Step x (x.ended t c now (attempt terms outbound schedule))
  | evicts (now : Instant) : Step x { x with session := x.session.step (.evict now) }
  | closes (closed : Nat → Bool) :
      Step x { x with session := x.session.step (.noteClosed closed) }

/-- What exchanges on a new pool lead to. -/
inductive Reached (limits : Limits) (authority : String) : Traffic → Prop
  | start : Reached limits authority (.start limits authority)
  | step {x y} : Reached limits authority x → Step x y → Reached limits authority y

variable {limits : Limits} {authority : String} {x y : Traffic} {t k : Nat} {c : Connection}
  {permit : Bool} {now : Instant} {outcome : Except RequestError Response}

/-! ### What every step keeps -/

/-- The end of an exchange is one of the things that happen to a pool. -/
theorem ended_session (h : Pool.Reached limits authority x.session)
    (hs : x.pool.stage? t = some (.holding permit c)) :
    ∃ e : Event, e.ticket? = some t ∧ x.session.admits e = true ∧
      (x.ended t c now outcome).session = x.session.step e := by
  -- Whoever holds a connection has opened it, if that was needed.
  have hnot : t ∉ x.session.opening := by
    intro ht
    obtain ⟨permit', hs'⟩ := isAdmitted_iff.mp (h.opening.admitted t ht)
    simp [show x.session.pool.stage? t = _ from hs] at hs'
  by_cases hr : reusable outcome = true
  · refine ⟨.release t now, rfl, decide_eq_true hnot, ?_⟩
    simp only [ended, settle, hr, if_true]
    rfl
  · refine ⟨.leave t, rfl, rfl, ?_⟩
    simp only [ended, settle, hr, Session.step, Session.openingAfter, List.erase_of_not_mem hnot]
    rfl

/-- Each step is something that happens to the pool, or does nothing to it. -/
theorem Step.session (hstep : Step x y) (h : Pool.Reached limits authority x.session) :
    ∃ e, x.session.admits e = true ∧ y.session = x.session.step e := by
  cases hstep with
  | begins => exact ⟨_, rfl, rfl⟩
  | beginsLate => exact ⟨_, rfl, rfl⟩
  | seeks _ _ he => exact ⟨_, he, rfl⟩
  | givesUp => exact ⟨_, rfl, rfl⟩
  | givesBack => exact ⟨_, rfl, rfl⟩
  | ends now terms outbound schedule _ hs =>
    obtain ⟨e, -, he⟩ := ended_session h hs
    exact ⟨e, he⟩
  | evicts => exact ⟨_, rfl, rfl⟩
  | closes => exact ⟨_, rfl, rfl⟩

theorem Reached.session (h : Reached limits authority x) :
    Pool.Reached limits authority x.session := by
  induction h with
  | start => exact .start
  | step _ hstep ih =>
    obtain ⟨e, he, hy⟩ := hstep.session ih
    rw [hy]
    exact ih.step he

/-- Whoever wants or has a connection is in an exchange, and a connection whose exchange has failed
is nowhere. -/
structure Accounted (x : Traffic) : Prop where
  seats : ∀ t ∈ x.pool.seats.keys, t ∈ x.underWay
  spoilt : ∀ k ∈ x.spoilt, x.pool.places k = 0 ∧ k < x.pool.nextConnection

theorem settle_keys {p : Pool} {n : Nat} (hp : Sound p n)
    (hs : p.stage? t = some (.holding permit c)) :
    (settle p t now outcome).seats.keys = p.seats.keys.filter (· ≠ t) := by
  unfold settle
  split
  · have hnodup : (p.keep c now).seats.keys.Nodup := (hp.keep c now).nodup
    rw [release, hs, ← keep_seats p c now]
    exact leave_keys hnodup t
  · exact leave_keys hp.nodup t

theorem ticket_of_ask {p : Pool} (h : p.ask.1 = .admitted t ∨ p.ask.1 = .queued t) :
    t = p.nextTicket := by
  rcases p.ask_cases with ⟨hanswer, -⟩ | ⟨hanswer, -⟩ | hanswer
  · simpa [hanswer, eq_comm] using h
  · simpa [hanswer, eq_comm] using h
  · simp [hanswer] at h

/-- Whoever seeks a connection takes nobody else along. -/
theorem seats_of_seeks {p : Pool} {n : Nat} (hp : Sound p n) {e : Event} (he : seeks p t e = true)
    {t' : Nat} (ht' : t' ∈ (e.effect p).seats.keys) : t' ∈ p.seats.keys := by
  cases e with
  | take t₁ now =>
    rw [← take_keys p t₁ now]
    exact ht'
  | ask => simp [seeks] at he
  | askLate => simp [seeks] at he
  | release => simp [seeks] at he
  | _ =>
    rcases (Event.change p rfl).seats hp ht' with h | ⟨-, h⟩
    · exact h
    · simp at h

/-- A connection that is nowhere stays nowhere, whatever happens. -/
theorem Accounted.spoilt_effect {n : Nat} (h : Accounted x) (hp : Sound x.pool n) (e : Event) :
    ∀ k ∈ x.spoilt, (e.effect x.pool).places k = 0 ∧ k < (e.effect x.pool).nextConnection := by
  intro k hk
  obtain ⟨hzero, hlt⟩ := h.spoilt k hk
  obtain ⟨hle, hlt'⟩ := places_effect_le hp e hlt
  exact ⟨by omega, hlt'⟩

/-- A connection whose exchange has failed is given up. -/
theorem Accounted.spoilt_ended {n : Nat} (h : Accounted x) (hp : Sound x.pool n)
    (hplaced : Placed x.pool) (hs : x.pool.stage? t = some (.holding permit c)) :
    ∀ k ∈ (x.ended t c now outcome).spoilt, (x.ended t c now outcome).pool.places k = 0 ∧
      k < (x.ended t c now outcome).pool.nextConnection := by
  have hpool : (x.ended t c now outcome).pool
      = (if reusable outcome then Event.release t now else Event.leave t).effect x.pool :=
    settle_eq_effect ..
  have hold := h.spoilt_effect hp (if reusable outcome then Event.release t now else .leave t)
  rw [← hpool] at hold
  cases outcome with
  | ok r => exact hold
  | error e =>
    refine List.forall_mem_cons.mpr ⟨⟨places_leave_lent hplaced hp hs, ?_⟩, hold⟩
    -- What has been opened has a number that is not given out again.
    rw [show (x.ended t c now (.error e)).pool.nextConnection = x.pool.nextConnection from
      leave_nextConnection x.pool t]
    have hlent := countP_lends_pos hs
    by_contra hge
    have hzero := hplaced.fresh c.id (Nat.le_of_not_lt hge)
    rw [places] at hzero
    omega

theorem Accounted.step (h : Accounted x) (hx : Reached limits authority x) (hstep : Step x y) :
    Accounted y := by
  have hsound : Sound x.pool limits.maxConnections := hx.session.sound.2
  have hseats : ∀ e : Event, e.isFine = true → ∀ t ∈ (e.effect x.pool).seats.keys,
      t ∈ x.underWay ∨ t = x.pool.nextTicket ∧ (e = .ask ∨ e = .askLate) := fun e hfine t ht =>
    ((e.change x.pool hfine).seats hsound ht).imp_left (h.seats t)
  have hleft : ∀ t, ∀ t' ∈ x.pool.seats.keys.filter (· ≠ t), t' ∈ x.underWay.filter (· ≠ t) :=
    fun t t' ht' => by
      obtain ⟨hmem, hne⟩ := List.mem_filter.mp ht'
      exact List.mem_filter.mpr ⟨h.seats t' hmem, hne⟩
  -- Only who asks gets a seat, and that is when the exchange begins.
  cases hstep with
  | begins hask =>
    refine ⟨fun t ht => ?_, h.spoilt_effect hsound .ask⟩
    rw [ticket_of_ask hask]
    exact (hseats .ask rfl t ht).elim (List.mem_cons_of_mem _) fun hnew =>
      List.mem_cons.mpr (.inl hnew.1)
  | beginsLate =>
    refine ⟨fun t ht => ?_, h.spoilt_effect hsound .askLate⟩
    exact (hseats .askLate rfl t ht).elim (List.mem_cons_of_mem _) fun hnew =>
      List.mem_cons.mpr (.inl hnew.1)
  | seeks _ he =>
    exact ⟨fun t ht => h.seats t (seats_of_seeks hsound he ht), h.spoilt_effect hsound _⟩
  | @givesUp t =>
    refine ⟨fun t' ht' => hleft t t' ?_, h.spoilt_effect hsound (.leave t)⟩
    rw [← leave_keys hsound.nodup]
    exact ht'
  | @givesBack t permit c now =>
    exact ⟨fun t' ht' => (hseats (.putBack t now) rfl t' ht').resolve_right (by simp),
      h.spoilt_effect hsound (.putBack t now)⟩
  | @ends t permit c now terms outbound schedule _ hs =>
    refine ⟨fun t' ht' => hleft t t' ?_, h.spoilt_ended hsound hx.session.placed hs⟩
    rw [← settle_keys hsound hs]
    exact ht'
  | evicts now =>
    exact ⟨fun t' ht' => (hseats (.evict now) rfl t' ht').resolve_right (by simp),
      h.spoilt_effect hsound (.evict now)⟩
  | closes closed =>
    exact ⟨fun t' ht' => (hseats (.noteClosed closed) rfl t' ht').resolve_right (by simp),
      h.spoilt_effect hsound (.noteClosed closed)⟩

/-- **All is accounted for**, whatever exchanges are made on a pool, and in whatever order their
steps are taken. -/
theorem Reached.accounted (h : Reached limits authority x) : Accounted x := by
  induction h with
  | start => exact ⟨fun _ ht => absurd ht List.not_mem_nil, fun _ hk => absurd hk List.not_mem_nil⟩
  | step hx hstep ih => exact ih.step hx hstep

/-! ### The end of an exchange -/

/-- Where the connection of an exchange is afterwards. -/
theorem idleCount_settle {p : Pool} {n : Nat} (hplaced : Placed p) (hp : Sound p n)
    (hs : p.stage? t = some (.holding permit c)) (hmax : 0 < p.limits.maxConnections) :
    (settle p t now outcome).idleCount c.id
      = if reusable outcome && c.isOpen then 1 else 0 := by
  unfold settle
  by_cases hr : reusable outcome = true
  · simp only [hr, if_true, Bool.true_and]
    exact idleCount_release hplaced hs hmax
  · have hleft := places_leave_lent hplaced hp hs
    rw [places] at hleft
    simp only [hr, Bool.false_and, Bool.false_eq_true, if_false]
    omega

/-- Whoever has had a connection has no seat any more. -/
theorem stage_settle {p : Pool} {n : Nat} (hp : Sound p n)
    (hs : p.stage? t = some (.holding permit c)) :
    (settle p t now outcome).stage? t = none := by
  rw [stage?, Keyed.find_eq_none_iff, settle_keys hp hs]
  simp

/-- The permit goes to the first who waits, or is available. -/
theorem settle_hands_on {p : Pool} {n : Nat} (hp : Sound p n)
    (hs : p.stage? t = some (.holding true c)) :
    (p.firstWaiting? = none → (settle p t now outcome).available = p.available + 1) ∧
      ∀ t', p.firstWaiting? = some t' →
        (settle p t now outcome).stage? t' = some .granted := by
  unfold settle
  split
  · have hkeep : (p.keep c now).firstWaiting? = p.firstWaiting? := by
      rw [firstWaiting?, firstWaiting?, keep_seats]
    have havailable : (p.keep c now).available = p.available := by
      unfold keep
      split <;> rfl
    rw [release, hs, ← hkeep, ← havailable]
    exact permit_handed_on (hp.keep c now).nodup ((keep_stage ..).trans hs) rfl
  · exact permit_handed_on hp.nodup hs rfl

theorem inUse_of_no_seats {p : Pool} (hp : Sound p p.limits.maxConnections)
    (h : p.seats.keys = []) : p.inUse = 0 := by
  have hentries : p.seats.entries = [] := List.map_eq_nil_iff.mp h
  have hbal := hp.balance
  rw [held, hentries, List.countP_nil] at hbal
  rw [inUse]
  omega

/-- A connection can be used again after an exchange: there was a complete response, the first
`Connection` line of which is not `close`, and the connection is still open. -/
def Clean (outcome : Except RequestError Response) (c : Connection) : Prop :=
  (∃ r, outcome = .ok r ∧ ∀ v, r.fields.text? "connection" = some v → v.toLower ≠ "close") ∧
    c.isOpen = true

/-- How an exchange leaves the pool, from `x` to `y`. -/
structure Settled (x y : Traffic) (t : Nat) (permit : Bool) (c : Connection)
    (outcome : Except RequestError Response) : Prop where
  idle : Clean outcome c → y.pool.idleCount c.id = 1
  gone : ¬ Clean outcome c → y.pool.idleCount c.id = 0
  spoilt : ∀ e, outcome = .error e → c.id ∈ y.spoilt
  unseated : y.pool.stage? t = none ∧ t ∉ y.underWay
  balance : y.pool.held + y.pool.available = y.pool.limits.maxConnections
  available : permit = true → x.pool.firstWaiting? = none →
    y.pool.available = x.pool.available + 1
  handedOn : permit = true → ∀ t', x.pool.firstWaiting? = some t' →
    y.pool.stage? t' = some .granted

theorem clean_iff : Clean outcome c ↔ (reusable outcome && c.isOpen) = true := by
  rw [Clean, Bool.and_eq_true, reusable_iff]

/-- While nobody is in an exchange, no permit is in use. -/
theorem Reached.inUse_eq_zero (h : Reached limits authority x) (hnone : x.underWay = []) :
    x.pool.inUse = 0 := by
  obtain ⟨hlimits, hsound⟩ := h.session.sound
  rw [← hlimits] at hsound
  refine inUse_of_no_seats hsound (List.eq_nil_iff_forall_not_mem.mpr fun t ht => ?_)
  have hmem := h.accounted.seats t ht
  rw [hnone] at hmem
  exact List.not_mem_nil hmem

/-- The end of any exchange that can be in progress. -/
theorem Reached.settled (h : Reached limits authority x) (hmax : 0 < limits.maxConnections)
    (ht : t ∈ x.underWay) (hs : x.pool.stage? t = some (.holding permit c)) (now : Instant)
    (terms : Terms) (outbound : Outbound) (schedule : Schedule) :
    Settled x (x.ended t c now (attempt terms outbound schedule)) t permit c
      (attempt terms outbound schedule) := by
  have hstep := Step.ends now terms outbound schedule ht hs
  obtain ⟨hlimits, hsound⟩ := h.session.sound
  obtain ⟨hlimits', hsound'⟩ := (h.step hstep).session.sound
  generalize attempt terms outbound schedule = outcome at hstep hlimits' hsound' ⊢
  have hcount : (x.ended t c now outcome).pool.idleCount c.id
      = if reusable outcome && c.isOpen then 1 else 0 :=
    idleCount_settle h.session.placed hsound hs (hlimits ▸ hmax)
  constructor
  case idle => exact fun hc => hcount.trans (if_pos (clean_iff.mp hc))
  case gone => exact fun hc => hcount.trans (if_neg fun hr => hc (clean_iff.mpr hr))
  case spoilt =>
    rintro e rfl
    exact List.mem_cons_self
  case unseated => exact ⟨stage_settle hsound hs, by simp [ended]⟩
  case balance =>
    rw [show (x.ended t c now outcome).pool.limits = _ from hlimits']
    exact hsound'.balance
  case available =>
    rintro rfl
    exact (settle_hands_on hsound hs).1
  case handedOn =>
    rintro rfl
    exact (settle_hands_on hsound hs).2

/-- **However an exchange ends**, and whatever others do on the same pool meanwhile: its connection
is idle once if there was a complete response, the first `Connection` line of which is not `close`,
and the connection is still open, and it is not idle otherwise; its permit goes to the first who
waits, or is available again. A connection whose exchange has failed is not idle at any later time,
and while no exchange is in progress no permit is in use. -/
theorem exchange_settled {settings : Settings.PoolLimits} {timeouts : BackendTimeouts}
    (h : Reached (.ofSettings settings timeouts) authority x) :
    (x.underWay = [] → x.pool.inUse = 0) ∧
    (∀ k ∈ x.spoilt, x.pool.idleCount k = 0) ∧
    ∀ t ∈ x.underWay, ∀ permit c, x.pool.stage? t = some (.holding permit c) →
      ∀ (now : Instant) (terms : Terms) (outbound : Outbound) (schedule : Schedule),
        let outcome := attempt terms outbound schedule
        Step x (x.ended t c now outcome) ∧
          Settled x (x.ended t c now outcome) t permit c outcome := by
  refine ⟨h.inUse_eq_zero, fun k hk => ?_, ?_⟩
  · have hzero := (h.accounted.spoilt k hk).1
    rw [places] at hzero
    omega
  · -- A pool has one connection at least, whatever its settings are.
    have hmax : 0 < (Limits.ofSettings settings timeouts).maxConnections :=
      Nat.lt_of_lt_of_le Nat.zero_lt_one (Nat.le_max_right _ 1)
    intro t ht permit c hs now terms outbound schedule
    exact ⟨.ends now terms outbound schedule ht hs,
      h.settled hmax ht hs now terms outbound schedule⟩

/-- One connection may be lent. An exchange opens it and gets a complete response, and afterwards
the connection is idle and the permit is available. -/
theorem exchange_settled_one :
    let limits := Limits.ofSettings { maxConnectionsPerHost := 1 } (.ofSettings {})
    let terms : Terms := ⟨.ofSettings {}, 100, "backend:80"⟩
    let outbound : Outbound := ⟨"GET", "/", .empty, emptyBody, "backend:80"⟩
    let schedule : Schedule := [(0, .bodyTaken), (3, .head .ok .empty), (5, .finished)]
    let session := (Session.start limits "backend:80").run [.ask, .take 0 0, .opened 0]
    let x : Traffic := ⟨session, [0], []⟩
    let y := x.ended 0 ⟨0, true⟩ 5 (attempt terms outbound schedule)
    Reached limits "backend:80" x ∧ 0 ∈ x.underWay ∧
      x.pool.stage? 0 = some (.holding true ⟨0, true⟩) ∧ y.pool.idleCount 0 = 1 ∧
      y.underWay = [] ∧ y.pool.inUse = 0 := by
  intro limits terms outbound schedule session x y
  have hx : Reached limits "backend:80" x := by
    have hstart : Reached limits "backend:80" (.start limits "backend:80") := .start
    have hasked := hstart.step (.begins (t := 0) (by decide +kernel))
    have htaken := hasked.step
      (.seeks (t := 0) (e := .take 0 0) (by decide) (by decide +kernel) (by decide +kernel))
    exact htaken.step
      (.seeks (t := 0) (e := .opened 0) (by decide) (by decide +kernel) (by decide +kernel))
  have hs : x.pool.stage? 0 = some (.holding true ⟨0, true⟩) := by decide +kernel
  have houtcome : attempt terms outbound schedule = .ok ⟨.ok, .empty, emptyBody⟩ := by
    decide +kernel
  have hfield : Fields.empty.text? "connection" = none := by decide +kernel
  obtain ⟨hstep, hsettled⟩ :=
    (exchange_settled hx).2.2 0 (by decide) true ⟨0, true⟩ hs 5 terms outbound schedule
  have hidle : y.pool.idleCount 0 = 1 :=
    hsettled.idle ⟨⟨_, houtcome, fun v hv => by simp [hfield] at hv⟩, rfl⟩
  exact ⟨hx, by decide, hs, hidle, by decide, (exchange_settled (hx.step hstep)).1 (by decide)⟩

end Traffic

end HttpGateway.Forward
