/-
Sweeping makes no difference to those who acquire connections.

* **Event.isSweep** — whether an event only discards what can no longer be used.
* **Event.report?**, **Session.reports** — what the events of a run tell those who acquire: which
  connection they get, whether it was lent before, or why there is none.
* **Alike** — two sessions that differ in nothing but idle connections that can no longer be used.
* `Alike.sweep`, `Alike.step` — a sweep in one of them keeps them alike, and so does any other event
  that happens in both; it tells the same in both.
* `sweeping_unnoticed` — so a run with sweeps put in anywhere tells the same as the run without them.

Whoever looks for an idle connection passes over those that are closed or have been idle for too long,
and these are what a sweep discards; they will not be fit for use later either. What a sweep could
change is the room for others, as only so many idle connections are kept. But where nobody is let
through without a permit, there is always room for a connection that is given back.

An open connection that is idle is ready for another exchange, so that there is nothing to wait for
while someone looks for one: that is a single event here.
-/
import HttpGateway.Proofs.Pool.Reuse

namespace HttpGateway.Pool

/-- What someone who acquires a connection is told in the end. Who has begun to open a connection and
gives up is `unopened`. -/
inductive Report
  | lent (connection : Nat) (reused : Bool)
  | failed (error : RequestError)
  | unopened
deriving DecidableEq, Repr

namespace Event

/-- Whether an event only discards what can no longer be used. -/
def isSweep : Event → Bool
  | evict _ => true
  | _ => false

/-- Whether an event is a part of looking for an idle connection. -/
def isLook : Event → Bool
  | draw _ | findNone _ => true
  | _ => false

/-- What an event tells someone who acquires a connection, if that is the end of it. -/
def report? (s : Session) : Event → Option Report
  | ask =>
    match s.pool.ask.1 with
    | .refused => some (.failed s.pool.exhausted)
    | _ => none
  | expire t => (s.pool.expire t).1.map .failed
  | lapse t =>
    match s.pool.stage? t, s.pool.limits.onTimeout with
    | some .granted, .fail => some (.failed s.pool.exhausted)
    | _, _ => none
  | take t now => (s.pool.take t now).1.map fun c => .lent c.id true
  | opened t => if s.pool.isAdmitted t then some (.lent (s.pool.opened t).1.id false) else none
  | leave t => if t ∈ s.opening then some .unopened else none
  | _ => none

end Event

/-- What the events of a run tell, one after another. Sweeps tell nobody anything. -/
def Session.reports (s : Session) : List Event → List (Option Report)
  | [] => []
  | e :: rest =>
    if e.isSweep then (s.step e).reports rest else e.report? s :: (s.step e).reports rest

/-- A pool with other idle connections. -/
def withIdle (p : Pool) (l : List Idle) : Pool := { p with idle := l }

/-- Two sessions that differ in nothing but idle connections that can no longer be used. -/
inductive Alike (now : Instant) : Session → Session → Prop
  | intro (p : Pool) (opening : List Nat) {l l' : List Idle} :
      l.filter (usable p.limits.idleTimeout now) = l'.filter (usable p.limits.idleTimeout now) →
      Alike now ⟨p.withIdle l, opening⟩ ⟨p.withIdle l', opening⟩

variable {p : Pool} {s s' : Session} {e : Event} {l l' : List Idle} {i : Idle} {t : Nat}
  {limit now later : Instant}

/-! ### What can be used -/

/-- What can be used later can be used now. -/
theorem usable_mono (hle : now ≤ later) (h : usable limit later i = true) :
    usable limit now i = true := by
  obtain ⟨hopen, hfresh⟩ := Bool.and_eq_true_iff.mp h
  have hlt : later - i.since < limit := of_decide_eq_true hfresh
  exact Bool.and_eq_true_iff.mpr
    ⟨hopen, decide_eq_true (Nat.lt_of_le_of_lt (Nat.sub_le_sub_right hle _) hlt)⟩

theorem filter_usable_later (hle : now ≤ later) (l : List Idle) :
    (l.filter (usable limit now)).filter (usable limit later) = l.filter (usable limit later) := by
  rw [List.filter_filter]
  refine List.filter_congr fun i _ => ?_
  cases hi : usable limit later i with
  | true => rw [usable_mono hle hi, Bool.and_self]
  | false => exact Bool.false_and _

/-- The connection that is picked is the first of those that can be used. -/
theorem pick_fst (limit now : Instant) (l : List Idle) :
    (pick limit now l).1 = (l.filter (usable limit now)).head?.map (·.connection) := by
  induction l with
  | nil => rfl
  | cons i rest ih =>
    by_cases hu : usable limit now i = true
    · rw [pick, if_pos hu, List.filter_cons_of_pos hu]
      rfl
    · rw [pick, if_neg hu, List.filter_cons_of_neg hu, ih]

/-- All others that can be used remain. -/
theorem filter_pick_snd (limit now : Instant) (l : List Idle) :
    (pick limit now l).2.filter (usable limit now) = (l.filter (usable limit now)).tail := by
  induction l with
  | nil => rfl
  | cons i rest ih =>
    by_cases hu : usable limit now i = true
    · rw [pick, if_pos hu, List.filter_cons_of_pos hu]
      rfl
    · rw [pick, if_neg hu, List.filter_cons_of_neg hu, ih]

/-- What cannot be used before the backend closes some connections cannot be used afterwards. -/
theorem usable_of_afterClosing {closed : Nat → Bool}
    (h : usable limit now { i with connection := i.connection.afterClosing closed } = true) :
    usable limit now i = true := by
  obtain ⟨hopen, hfresh⟩ := Bool.and_eq_true_iff.mp h
  refine Bool.and_eq_true_iff.mpr ⟨?_, hfresh⟩
  have hopen : (i.connection.afterClosing closed).isOpen = true := hopen
  unfold Connection.afterClosing at hopen
  split at hopen
  · exact absurd hopen Bool.false_ne_true
  · exact hopen

theorem filter_map_afterClosing (closed : Nat → Bool) (l : List Idle) :
    (l.map fun i => { i with connection := i.connection.afterClosing closed }).filter
        (usable limit now)
      = ((l.filter (usable limit now)).map
          fun i => { i with connection := i.connection.afterClosing closed }).filter
        (usable limit now) := by
  induction l with
  | nil => rfl
  | cons i rest ih =>
    by_cases hu : usable limit now i = true
    · rw [List.filter_cons_of_pos hu, List.map_cons, List.map_cons, List.filter_cons,
        List.filter_cons, ih]
    · rw [List.filter_cons_of_neg hu, List.map_cons,
        List.filter_cons_of_neg fun h => hu (usable_of_afterClosing h), ih]

/-! ### Events that do not look at idle connections -/

@[simp] theorem withIdle_stage? (p : Pool) (l : List Idle) (t : Nat) :
    (p.withIdle l).stage? t = p.stage? t := rfl

theorem handOn_withIdle (p : Pool) (l : List Idle) :
    (p.withIdle l).handOn = p.handOn.withIdle l := by
  have hfirst : (p.withIdle l).firstWaiting? = p.firstWaiting? := rfl
  simp only [handOn, hfirst]
  split <;> rfl

theorem leave_withIdle (p : Pool) (l : List Idle) (t : Nat) :
    (p.withIdle l).leave t = (p.leave t).withIdle l := by
  simp only [leave, withIdle_stage?]
  split
  · rfl
  · next a _ =>
    split
    · exact handOn_withIdle
        { p with seats := p.seats.erase t
                 pending := if a.isPending then p.pending - 1 else p.pending } l
    · rfl

theorem ask_withIdle (p : Pool) (l : List Idle) :
    (p.withIdle l).ask = (p.ask.1, p.ask.2.withIdle l) := by
  have havailable : (p.withIdle l).available = p.available := rfl
  have hpending : (p.withIdle l).pending = p.pending := rfl
  have hlimits : (p.withIdle l).limits = p.limits := rfl
  simp only [ask, havailable, hpending, hlimits]
  by_cases ha : 0 < p.available
  · simp only [if_pos ha]
    rfl
  · by_cases hp : p.pending < p.limits.maxPending
    · simp only [if_neg ha, if_pos hp]
      rfl
    · simp only [if_neg ha, if_neg hp]

theorem expire_withIdle (p : Pool) (l : List Idle) (t : Nat) :
    (p.withIdle l).expire t = ((p.expire t).1, (p.expire t).2.withIdle l) := by
  simp only [expire, withIdle_stage?]
  split
  · simp only [withIdle]
    cases p.limits.onTimeout <;> rfl
  · rfl

theorem opened_withIdle (p : Pool) (l : List Idle) (t : Nat) :
    (p.withIdle l).opened t = ((p.opened t).1, (p.opened t).2.withIdle l) := by
  simp only [opened, withIdle_stage?]
  split <;> rfl

/-- Whether an event has nothing to do with idle connections. -/
def Event.isAside : Event → Bool
  | ask | askLate | enter _ | expire _ | lapse _ | discard _ | opened _ | leave _ => true
  | _ => false

theorem effect_withIdle (he : e.isAside = true) (p : Pool) (l : List Idle) :
    e.effect (p.withIdle l) = (e.effect p).withIdle l := by
  cases e with
  | ask => exact congrArg Prod.snd (ask_withIdle p l)
  | expire t => exact congrArg Prod.snd (expire_withIdle p l t)
  | opened t => exact congrArg Prod.snd (opened_withIdle p l t)
  | leave t => exact leave_withIdle p l t
  | askLate =>
    have havailable : (p.withIdle l).available = p.available := rfl
    have hpending : (p.withIdle l).pending = p.pending := rfl
    have hlimits : (p.withIdle l).limits = p.limits := rfl
    simp only [Event.effect, askLate, havailable, hpending, hlimits]
    split <;> rfl
  | lapse t =>
    have hlimits : (p.withIdle l).limits = p.limits := rfl
    simp only [Event.effect, lapse, withIdle_stage?, hlimits]
    split
    · exact leave_withIdle p l t
    · exact handOn_withIdle ({ p with pending := p.pending - 1 }.setStage t (.admitted false)) l
    · rfl
  | enter t | discard t =>
    simp only [Event.effect, enter, discard, withIdle_stage?]
    split <;> rfl
  | _ => exact absurd he Bool.false_ne_true

theorem isFine_of_isAside (he : e.isAside = true) : e.isFine = true := by
  cases e with
  | take => exact absurd he Bool.false_ne_true
  | release => exact absurd he Bool.false_ne_true
  | _ => rfl

theorem openingAfter_withIdle (he : e.isAside = true) (l l' : List Idle) {opening : List Nat} :
    Session.openingAfter ⟨p.withIdle l, opening⟩ e
      = Session.openingAfter ⟨p.withIdle l', opening⟩ e := by
  cases e with
  | take => exact absurd he Bool.false_ne_true
  | findNone => exact absurd he Bool.false_ne_true
  | _ => rfl

/-! ### Taking and giving back -/

theorem take_withIdle {permit : Bool} (h : p.stage? t = some (.admitted permit)) (l : List Idle) :
    (p.withIdle l).take t now = ((pick p.limits.idleTimeout now l).1,
      match (pick p.limits.idleTimeout now l).1 with
      | some c => (p.setStage t (.holding permit c)).withIdle (pick p.limits.idleTimeout now l).2
      | none => p.withIdle (pick p.limits.idleTimeout now l).2) := by
  have hpick : pick (p.withIdle l).limits.idleTimeout now (p.withIdle l).idle
      = pick p.limits.idleTimeout now l := rfl
  simp only [take, withIdle_stage?, h, hpick]
  split <;> next hc => rw [hc]; rfl

/-- Whether there is room among the idle connections for one that someone gives back. -/
def HasRoom (p : Pool) : Prop :=
  ∀ t c, p.lent? t = some c → p.idle.length < p.limits.maxConnections

/-- A connection that is given back is kept with all others, where there is room. -/
theorem keep_of_room (h : p.idle.length < p.limits.maxConnections) (c : Connection)
    (now : Instant) :
    p.keep c now = p.withIdle (if c.isOpen then ⟨c, now⟩ :: p.idle else p.idle) := by
  unfold keep
  split
  · rw [List.take_of_length_le h]
    rfl
  · rfl

theorem putBack_withIdle {permit : Bool} {c : Connection} (hs : p.stage? t = some (.holding permit c))
    (h : l.length < p.limits.maxConnections) (now : Instant) :
    (p.withIdle l).putBack t now
      = (p.setStage t (.admitted permit)).withIdle (if c.isOpen then ⟨c, now⟩ :: l else l) := by
  rw [putBack, withIdle_stage?, hs]
  show ((p.withIdle l).keep c now).setStage t (.admitted permit) = _
  rw [keep_of_room h]
  rfl

/-! ### Sessions that stay alike -/

namespace Alike

theorem mono (h : Alike now s s') (hle : now ≤ later) : Alike later s s' := by
  cases h with
  | intro p opening h =>
    refine .intro p opening ?_
    rw [← filter_usable_later hle, h, filter_usable_later hle]

/-- **A sweep** discards what can no longer be used, and makes no other difference. -/
theorem sweep (h : Alike now s s') : Alike now (s.step (.evict now)) s' := by
  cases h with
  | intro p opening h =>
    have hagain : ∀ m : List Idle, (m.filter (usable p.limits.idleTimeout now)).filter
        (usable p.limits.idleTimeout now) = m.filter (usable p.limits.idleTimeout now) := fun m =>
      filter_usable_later (Nat.le_refl now) m
    exact .intro p opening ((hagain _).trans h)

theorem admits_eq (h : Alike now s s') (e : Event) : s.admits e = s'.admits e := by
  cases h with
  | intro => cases e <;> rfl

theorem aside (h : Alike now s s') (he : e.isAside = true) : Alike now (s.step e) (s'.step e) := by
  cases h with
  | @intro p opening l l' h =>
    have hlimits : (e.effect p).limits = p.limits := (e.change p (isFine_of_isAside he)).limits
    rw [Session.step, Session.step, effect_withIdle he, effect_withIdle he,
      openingAfter_withIdle he l l']
    refine .intro (e.effect p) _ ?_
    rwa [hlimits]

/-- Whoever looks for an idle connection finds the same one in both, and what remains is alike. -/
theorem take (h : Alike now s s') (t : Nat) :
    (s.pool.take t now).1 = (s'.pool.take t now).1 ∧
      Alike now (s.step (.take t now)) (s'.step (.take t now)) := by
  cases h with
  | @intro p opening l l' h =>
    have hfirst := pick_fst p.limits.idleTimeout now l
    have hrest := filter_pick_snd p.limits.idleTimeout now l
    rw [h, ← pick_fst] at hfirst
    rw [h, ← filter_pick_snd] at hrest
    by_cases hadmitted : p.isAdmitted t = true
    · obtain ⟨permit, hstage⟩ := isAdmitted_iff.mp hadmitted
      have hadmits : ∀ m, (p.withIdle m).isAdmitted t = p.isAdmitted t := fun _ => rfl
      refine ⟨by rw [take_withIdle hstage, take_withIdle hstage, hfirst], ?_⟩
      simp only [Session.step, Session.openingAfter, Event.effect, take_withIdle hstage, hfirst,
        hadmits]
      cases (pick p.limits.idleTimeout now l').1 with
      | some c => exact .intro (p.setStage t (.holding permit c)) _ hrest
      | none => exact .intro p _ hrest
    · have hother : ∀ m, (p.withIdle m).take t now = (none, p.withIdle m) := fun m =>
        take_other (p := p.withIdle m) hadmitted
      refine ⟨by rw [hother, hother], ?_⟩
      rw [Session.step_take_other hadmitted, Session.step_take_other hadmitted]
      exact .intro p opening h

/-- A connection that is given back is kept in both. -/
theorem putBack (h : Alike now s s') (t : Nat) (hroom : s.pool.HasRoom) (hroom' : s'.pool.HasRoom) :
    Alike now (s.step (.putBack t now)) (s'.step (.putBack t now)) := by
  cases h with
  | @intro p opening l l' h =>
    show Alike now ⟨(p.withIdle l).putBack t now, opening⟩ ⟨(p.withIdle l').putBack t now, opening⟩
    by_cases hholding : ∃ permit c, p.stage? t = some (.holding permit c)
    · obtain ⟨permit, c, hstage⟩ := hholding
      have hlt : l.length < p.limits.maxConnections := hroom t c (lent?_of_holding hstage)
      have hlt' : l'.length < p.limits.maxConnections := hroom' t c (lent?_of_holding hstage)
      rw [putBack_withIdle hstage hlt, putBack_withIdle hstage hlt']
      refine .intro (p.setStage t (.admitted permit)) opening ?_
      show List.filter (usable p.limits.idleTimeout now) _
        = List.filter (usable p.limits.idleTimeout now) _
      split
      · rw [List.filter_cons, List.filter_cons, h]
      · exact h
    · have hother : ∀ m, (p.withIdle m).putBack t now = p.withIdle m := fun m => by
        unfold Pool.putBack
        split
        · next permit c hs => exact absurd ⟨permit, c, hs⟩ hholding
        · rfl
      rw [hother, hother]
      exact .intro p opening h

theorem noteClosed (h : Alike now s s') (closed : Nat → Bool) :
    Alike now (s.step (.noteClosed closed)) (s'.step (.noteClosed closed)) := by
  cases h with
  | @intro p opening l l' h =>
    refine .intro (p.noteClosed closed) opening ?_
    have hmap := congrArg (fun m : List Idle => (m.map fun i =>
      { i with connection := i.connection.afterClosing closed }).filter
        (usable p.limits.idleTimeout now)) h
    exact (filter_map_afterClosing closed l).trans
      (hmap.trans (filter_map_afterClosing closed l').symm)

theorem release (h : Alike now s s') (t : Nat) (hroom : s.pool.HasRoom) (hroom' : s'.pool.HasRoom)
    (ho : t ∉ s.opening) :
    Alike now (s.step (.release t now)) (s'.step (.release t now)) := by
  have hback := (h.putBack t hroom hroom').aside (e := .leave t) rfl
  cases h with
  | @intro p opening l l' h =>
    by_cases hholding : ∃ permit c, p.stage? t = some (.holding permit c)
    · obtain ⟨permit, c, hstage⟩ := hholding
      have hrelease : ∀ m, Session.step ⟨p.withIdle m, opening⟩ (.release t now)
          = (Session.step ⟨p.withIdle m, opening⟩ (.putBack t now)).step (.leave t) := fun m =>
        Session.step_release hstage ho
      rwa [hrelease, hrelease]
    · have hother : ∀ permit c, p.stage? t ≠ some (.holding permit c) :=
        fun permit c hc => hholding ⟨permit, c, hc⟩
      rw [Session.step_release_other hother, Session.step_release_other hother]
      exact .intro p opening h

/-- **Any other event** keeps two sessions alike if it happens in both of them. -/
theorem step (h : Alike now s s') (he : s.admits e = true) (ht : e.time?.all (· = now) = true)
    (hsweep : e.isSweep = false) (hlook : e.isLook = false) (hroom : s.pool.HasRoom)
    (hroom' : s'.pool.HasRoom) : Alike now (s.step e) (s'.step e) := by
  cases e with
  | take t at' =>
    obtain rfl : at' = now := of_decide_eq_true ht
    exact (h.take t).2
  | putBack t at' =>
    obtain rfl : at' = now := of_decide_eq_true ht
    exact h.putBack t hroom hroom'
  | release t at' =>
    obtain rfl : at' = now := of_decide_eq_true ht
    exact h.release t hroom hroom' (of_decide_eq_true he)
  | noteClosed closed => exact h.noteClosed closed
  | evict => exact absurd hsweep.symm Bool.false_ne_true
  | draw => exact absurd hlook.symm Bool.false_ne_true
  | findNone => exact absurd hlook.symm Bool.false_ne_true
  | _ => exact h.aside rfl

/-- An event tells the same in both. -/
theorem report?_eq (h : Alike now s s') (ht : e.time?.all (· = now) = true) :
    e.report? s = e.report? s' := by
  cases e with
  | take t at' =>
    obtain rfl : at' = now := of_decide_eq_true ht
    exact congrArg (Option.map _) (h.take t).1
  | _ =>
    cases h with
    | @intro p opening l l' h =>
      simp only [Event.report?, ask_withIdle, expire_withIdle, opened_withIdle, withIdle_stage?]
      try rfl

end Alike

/-! ### Room for what is given back -/

/-- Where nobody is let through without a permit, whoever has a connection finds room for it. -/
theorem Reached.hasRoom {limits : Limits} {authority : String} (h : Reached limits authority s)
    (hfail : limits.onTimeout = .fail) : s.pool.HasRoom := by
  intro t c hlent
  obtain ⟨permit, hs⟩ := lent?_eq_some_iff.mp hlent
  have hbound := (h.strict hfail).bound
  have hpos : [t].length ≤ s.pool.lent :=
    Keyed.length_le_countP (List.nodup_singleton t) fun t' ht' =>
      ⟨.holding permit c, List.mem_singleton.mp ht' ▸ hs, rfl⟩
  rw [List.length_singleton] at hpos
  omega

/-- A connection that is given back comes in front of all that are idle, and none of them goes. -/
theorem idle_of_givesBack {c : Connection} (h : p.HasRoom) (hback : e.givesBack? p = some (c, now))
    (hopen : c.isOpen = true) : (e.effect p).idle = ⟨c, now⟩ :: p.idle := by
  have hkept : ∀ {t}, p.lent? t = some c → (p.keep c now).idle = ⟨c, now⟩ :: p.idle := fun hlent => by
    rw [keep_of_room (h _ c hlent), if_pos hopen]
    rfl
  cases e with
  | putBack t at' =>
    obtain ⟨c', hlent, heq⟩ := Option.map_eq_some_iff.mp hback
    obtain ⟨rfl, rfl⟩ := Prod.mk.inj heq
    obtain ⟨permit, hs⟩ := lent?_eq_some_iff.mp hlent
    rw [Event.effect, putBack, hs]
    exact hkept hlent
  | release t at' =>
    obtain ⟨c', hlent, heq⟩ := Option.map_eq_some_iff.mp hback
    obtain ⟨rfl, rfl⟩ := Prod.mk.inj heq
    obtain ⟨permit, hs⟩ := lent?_eq_some_iff.mp hlent
    rw [Event.effect, release, hs]
    exact (leave_idle ..).trans (hkept hlent)
  | _ => exact absurd hback (by simp [Event.givesBack?])

/-! ### Two runs -/

/-- The time at which an event takes place is not before the time of the one in front of it. -/
theorem times_cons {rest : List Event}
    (h : (now :: (e :: rest).filterMap Event.time?).Pairwise (· ≤ ·)) :
    ∃ later, now ≤ later ∧ e.time?.all (· = later) = true ∧
      (later :: rest.filterMap Event.time?).Pairwise (· ≤ ·) := by
  cases ht : e.time? with
  | none =>
    rw [List.filterMap_cons_none ht] at h
    exact ⟨now, Nat.le_refl now, rfl, h⟩
  | some later =>
    rw [List.filterMap_cons_some ht] at h
    obtain ⟨hle, hrest⟩ := List.pairwise_cons.mp h
    exact ⟨later, hle later List.mem_cons_self, decide_eq_true rfl, hrest⟩

theorem Alike.run {limits : Limits} {authority : String} (hfail : limits.onTimeout = .fail)
    (events : List Event) :
    ∀ {now : Instant} {s s' : Session}, Alike now s s' → Reached limits authority s →
      Reached limits authority s' → (∀ e ∈ events, e.isLook = false) →
      (now :: events.filterMap Event.time?).Pairwise (· ≤ ·) →
      s.canRun events = s'.canRun (events.filter (!·.isSweep)) ∧
        (s.canRun events = true → s.reports events = s'.reports (events.filter (!·.isSweep))) := by
  induction events with
  | nil => exact fun _ _ _ _ _ => ⟨rfl, fun _ => rfl⟩
  | cons e rest ih =>
    intro now s s' h hr hr' hlook htimes
    obtain ⟨hlook, hlooks⟩ := List.forall_mem_cons.mp hlook
    obtain ⟨later, hle, ht, htimes⟩ := times_cons htimes
    have h := h.mono hle
    cases hsweep : e.isSweep with
    | true =>
      cases e with
      | evict at' =>
        obtain rfl : at' = later := of_decide_eq_true ht
        exact ih h.sweep (hr.step rfl) hr' hlooks htimes
      | _ => exact absurd hsweep Bool.false_ne_true
    | false =>
      have hkept : (e :: rest).filter (!·.isSweep) = e :: rest.filter (!·.isSweep) :=
        List.filter_cons_of_pos (by rw [hsweep]; rfl)
      rw [hkept, Session.canRun, Session.canRun, Session.reports, Session.reports, hsweep,
        ← h.admits_eq e, ← h.report?_eq ht]
      cases he : s.admits e with
      | false => exact ⟨rfl, fun hrun => absurd hrun Bool.false_ne_true⟩
      | true =>
        have hstep := h.step he ht hsweep hlook (hr.hasRoom hfail) (hr'.hasRoom hfail)
        obtain ⟨hrun, hreports⟩ :=
          ih hstep (hr.step he) (hr'.step ((h.admits_eq e).symm.trans he)) hlooks htimes
        exact ⟨congrArg (true && ·) hrun,
          fun hcan => congrArg (e.report? s :: ·) (hreports hcan)⟩

/-- **Sweeping is not noticed.** A wait that lasts too long fails. Then a run in which idle connections
are swept at any times, in between or at the very moment when others look for one, can happen exactly
if it can without the sweeps, and with every event it tells those who acquire connections the same:
the same connections, lent again or new, and the same errors. In all sessions that can be reached, a
connection that is given back and open joins the idle ones without pushing one of them out. -/
theorem sweeping_unnoticed {limits : Limits} (hfail : limits.onTimeout = .fail) (authority : String)
    {events : List Event} (hlook : ∀ e ∈ events, e.isLook = false)
    (htimes : (events.filterMap Event.time?).Pairwise (· ≤ ·)) :
    let s := Session.start limits authority
    let others := events.filter (!·.isSweep)
    s.canRun events = s.canRun others ∧
      (s.canRun events = true → s.reports events = s.reports others) ∧
      ∀ s', Reached limits authority s' → ∀ (e : Event) (c : Connection) (now : Instant),
        e.givesBack? s'.pool = some (c, now) → c.isOpen = true →
          (e.effect s'.pool).idle = ⟨c, now⟩ :: s'.pool.idle := by
  intro s others
  have halike : Alike 0 s s := .intro s.pool [] rfl
  have hstart : (0 :: events.filterMap Event.time?).Pairwise (· ≤ ·) :=
    List.pairwise_cons.mpr ⟨fun _ _ => Nat.zero_le _, htimes⟩
  obtain ⟨hrun, hreports⟩ := halike.run hfail events .start .start hlook hstart
  exact ⟨hrun, hreports, fun s' hr e c now => idle_of_givesBack (hr.hasRoom hfail)⟩

/-- Two connections may be lent and one may wait. Both are lent, a third call waits in vain and a
fourth one at once. The connections come back at 5 and 8 and are swept at 9, when both are fresh, and
at 15, when the first one has been idle for ten microseconds. Then the other one is lent again, and a
new one is opened. -/
theorem sweeping_unnoticed_at_the_limit :
    let limits : Limits := ⟨2, 1, 1000000, .fail, 1000000, 10⟩
    let events : List Event :=
      [.ask, .take 0 0, .opened 0, .evict 1, .ask, .take 1 1, .opened 1, .ask, .ask, .expire 2,
        .release 0 5, .release 1 8, .evict 9, .ask, .evict 15, .take 3 15, .ask, .take 4 16,
        .evict 16, .opened 4]
    let s := Session.start limits "backend:80"
    let others := events.filter (!·.isSweep)
    let exhausted : Report := .failed (.poolExhausted "backend:80")
    s.canRun events = true ∧
      (s.reports others).filterMap id =
        [.lent 0 false, .lent 1 false, exhausted, exhausted, .lent 1 true, .lent 2 false] ∧
      s.reports events = s.reports others := by
  intro limits events s others exhausted
  have hfail : limits.onTimeout = .fail := rfl
  have hlook : ∀ e ∈ events, e.isLook = false := by decide +kernel
  have htimes : (events.filterMap Event.time?).Pairwise (· ≤ ·) := by decide +kernel
  have hrun : s.canRun events = true := by decide +kernel
  obtain ⟨-, hreports, -⟩ := sweeping_unnoticed hfail "backend:80" hlook htimes
  exact ⟨hrun, by decide +kernel, hreports hrun⟩

end HttpGateway.Pool
