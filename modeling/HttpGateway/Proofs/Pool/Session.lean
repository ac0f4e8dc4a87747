/-
A pool in use: who comes and goes, step by step.

* **Event**, **Event.effect** — what can happen to a pool. Some of it is finer than what the pool
  offers: between any two connections that someone tries, and between giving a connection back and
  giving up its permit, others go on.
* **Change** — what one event can do, case by case.
* **Session** — a pool, and who has found nothing idle and opens a connection.
* **Reached** — the sessions to which runs lead.
* `step_take_nil`, `step_take_usable`, `step_take_stale`, `step_release` — taking a connection and
  giving it back are made of the finer events.
* **Reached.invariant** — so what the finer events keep holds in every session that can be reached.
-/
import HttpGateway.Pool.Basic
import HttpGateway.Proofs.Keyed

namespace HttpGateway.Pool

/-! ### The queue and the permits -/

/-- Whether someone may have a connection but has none. -/
def isAdmitted (p : Pool) (ticket : Nat) : Bool :=
  match p.stage? ticket with
  | some (.admitted _) => true
  | _ => false

theorem isAdmitted_iff {p : Pool} {ticket : Nat} :
    p.isAdmitted ticket = true ↔ ∃ permit, p.stage? ticket = some (.admitted permit) := by
  unfold isAdmitted
  split
  · next permit h => exact iff_of_true rfl ⟨permit, h⟩
  · next h => exact iff_of_false Bool.false_ne_true fun ⟨permit, hp⟩ => h permit hp

/-- Who has no admission takes nothing. -/
theorem take_other {p : Pool} {t : Nat} {now : Instant} (h : ¬ p.isAdmitted t = true) :
    p.take t now = (none, p) := by
  unfold take
  split
  · next hs => exact absurd (isAdmitted_iff.mpr ⟨_, hs⟩) h
  · rfl

/-- Someone finds no permit, but one is back before the wait begins and is granted at once. -/
def askLate (p : Pool) : Pool :=
  if 0 < p.available ∧ p.pending < p.limits.maxPending then
    { p with available := p.available - 1, pending := p.pending + 1 }.seat .granted
  else p

/-- A wait is over just when a permit was granted, before note is taken of it. The permit is handed
on. -/
def lapse (p : Pool) (ticket : Nat) : Pool :=
  match p.stage? ticket, p.limits.onTimeout with
  | some .granted, .fail => p.leave ticket
  | some .granted, .newConnection =>
    ({ p with pending := p.pending - 1 }.setStage ticket (.admitted false)).handOn
  | _, _ => p

/-- Someone draws the idle connection in front, to see whether it can still be used. -/
def draw (p : Pool) (ticket : Nat) : Pool :=
  match p.stage? ticket, p.idle with
  | some (.admitted permit), i :: rest =>
    { p with idle := rest }.setStage ticket (.holding permit i.connection)
  | _, _ => p

/-- Someone closes a connection and keeps the permit. -/
def discard (p : Pool) (ticket : Nat) : Pool :=
  match p.stage? ticket with
  | some (.holding permit _) => p.setStage ticket (.admitted permit)
  | _ => p

/-- Someone gives a connection back and still has the permit. -/
def putBack (p : Pool) (ticket : Nat) (now : Instant) : Pool :=
  match p.stage? ticket with
  | some (.holding permit c) => (p.keep c now).setStage ticket (.admitted permit)
  | _ => p

theorem keep_seats (p : Pool) (c : Connection) (now : Instant) :
    (p.keep c now).seats = p.seats := by
  unfold keep
  split <;> rfl

theorem keep_stage (p : Pool) (c : Connection) (now : Instant) (ticket : Nat) :
    (p.keep c now).stage? ticket = p.stage? ticket := by
  rw [stage?, stage?, keep_seats]

/-! ### Events -/

/-- What happens to a pool. -/
inductive Event
  | ask
  | askLate
  | enter (ticket : Nat)
  | expire (ticket : Nat)
  | lapse (ticket : Nat)
  | take (ticket : Nat) (now : Instant)
  | draw (ticket : Nat)
  | discard (ticket : Nat)
  | findNone (ticket : Nat)
  | opened (ticket : Nat)
  | putBack (ticket : Nat) (now : Instant)
  | release (ticket : Nat) (now : Instant)
  | leave (ticket : Nat)
  | evict (now : Instant)
  | noteClosed (closed : Nat → Bool)

/-- Whether an event is one of the finer ones. -/
def Event.isFine : Event → Bool
  | take .. | release .. => false
  | _ => true

/-- What becomes of a pool. -/
def Event.effect (p : Pool) : Event → Pool
  | ask => p.ask.2
  | askLate => p.askLate
  | enter t => p.enter t
  | expire t => (p.expire t).2
  | lapse t => p.lapse t
  | take t now => (p.take t now).2
  | draw t => p.draw t
  | discard t => p.discard t
  | findNone _ => p
  | opened t => (p.opened t).2
  | putBack t now => p.putBack t now
  | release t now => p.release t now
  | leave t => p.leave t
  | evict now => (p.evict now).2
  | noteClosed closed => p.noteClosed closed

/-- What one of the finer events makes of a pool: nothing, or what there is to be done. -/
inductive Change (p : Pool) : Event → Pool → Prop
  | nothing (e) : Change p e p
  | letIn : 0 < p.available →
      Change p .ask ({ p with available := p.available - 1 }.seat (.admitted true))
  | queue : p.available = 0 → p.pending < p.limits.maxPending →
      Change p .ask ({ p with pending := p.pending + 1 }.seat .waiting)
  | grantLate : 0 < p.available → p.pending < p.limits.maxPending →
      Change p .askLate
        ({ p with available := p.available - 1, pending := p.pending + 1 }.seat .granted)
  | enter {t} : p.stage? t = some .granted →
      Change p (.enter t) ({ p with pending := p.pending - 1 }.setStage t (.admitted true))
  | refuse {t} : p.stage? t = some .waiting → p.limits.onTimeout = .fail →
      Change p (.expire t) { p with pending := p.pending - 1, seats := p.seats.erase t }
  | passOver {t} : p.stage? t = some .waiting → p.limits.onTimeout = .newConnection →
      Change p (.expire t) ({ p with pending := p.pending - 1 }.setStage t (.admitted false))
  | giveUp {t} : p.stage? t = some .granted → p.limits.onTimeout = .fail →
      Change p (.lapse t) (p.leave t)
  | goBare {t} : p.stage? t = some .granted → p.limits.onTimeout = .newConnection →
      Change p (.lapse t)
        ({ p with pending := p.pending - 1 }.setStage t (.admitted false)).handOn
  | draw {t permit i rest} : p.stage? t = some (.admitted permit) → p.idle = i :: rest →
      Change p (.draw t) ({ p with idle := rest }.setStage t (.holding permit i.connection))
  | discard {t permit c} : p.stage? t = some (.holding permit c) →
      Change p (.discard t) (p.setStage t (.admitted permit))
  | opened {t permit} : p.stage? t = some (.admitted permit) →
      Change p (.opened t) ({ p with nextConnection := p.nextConnection + 1 }.setStage t
        (.holding permit ⟨p.nextConnection, true⟩))
  | putBack {t now permit c} : p.stage? t = some (.holding permit c) →
      Change p (.putBack t now) ((p.keep c now).setStage t (.admitted permit))
  | leave {t s} : p.stage? t = some s → Change p (.leave t) (p.leave t)
  | evict {now} : Change p (.evict now) (p.evict now).2
  | noteClosed {closed} : Change p (.noteClosed closed) (p.noteClosed closed)

theorem Event.change (p : Pool) {e : Event} (he : e.isFine = true) : Change p e (e.effect p) := by
  cases e with
  | ask =>
    simp only [effect, Pool.ask]
    split
    · next ha => exact .letIn ha
    split
    · next ha hp => exact .queue (by omega) hp
    · exact .nothing _
  | askLate =>
    simp only [effect, Pool.askLate]
    split
    · next h => exact .grantLate h.1 h.2
    · exact .nothing _
  | enter t =>
    simp only [effect, Pool.enter]
    split
    · next h => exact .enter h
    · exact .nothing _
  | expire t =>
    simp only [effect, Pool.expire]
    split
    · next h =>
      cases hto : p.limits.onTimeout with
      | fail => exact .refuse h hto
      | newConnection => exact .passOver h hto
    · exact .nothing _
  | lapse t =>
    simp only [effect, Pool.lapse]
    split
    · next h hto => exact .giveUp h hto
    · next h hto => exact .goBare h hto
    · exact .nothing _
  | draw t =>
    simp only [effect, Pool.draw]
    split
    · next h hi => exact .draw h hi
    · exact .nothing _
  | discard t =>
    simp only [effect, Pool.discard]
    split
    · next h => exact .discard h
    · exact .nothing _
  | findNone t => exact .nothing _
  | opened t =>
    simp only [effect, Pool.opened]
    split
    · next h => exact .opened h
    · exact .nothing _
  | putBack t now =>
    simp only [effect, Pool.putBack]
    split
    · next h => exact .putBack h
    · exact .nothing _
  | leave t =>
    cases h : p.stage? t with
    | none =>
      have hleave : p.leave t = p := by rw [Pool.leave, h]
      rw [effect, hleave]
      exact .nothing _
    | some s => exact .leave h
  | evict now => exact .evict
  | noteClosed closed => exact .noteClosed
  | _ => exact absurd he Bool.false_ne_true

/-- A pool in use. `opening` are those who have found nothing idle and open a connection. -/
structure Session where
  pool : Pool
  opening : List Nat

namespace Session

/-- A new pool. -/
def start (limits : Limits) (authority : String) : Session where
  pool := .create limits authority
  opening := []

/-- Whether an event can happen: who opens a connection looks no more for an idle one and has none
to give back, and nobody else opens one. -/
def admits (s : Session) : Event → Bool
  | .take t _ | .draw t | .findNone t | .release t _ => t ∉ s.opening
  | .opened t => t ∈ s.opening
  | _ => true

/-- Who opens a connection after an event. -/
def openingAfter (s : Session) : Event → List Nat
  | .take t now =>
    if s.pool.isAdmitted t && (s.pool.take t now).1.isNone then t :: s.opening else s.opening
  | .findNone t => if s.pool.isAdmitted t && s.pool.idle.isEmpty then t :: s.opening else s.opening
  | .opened t | .leave t => s.opening.erase t
  | _ => s.opening

/-- The session after an event. -/
def step (s : Session) (e : Event) : Session where
  pool := e.effect s.pool
  opening := s.openingAfter e

/-- The session after several events. -/
def run (s : Session) : List Event → Session
  | [] => s
  | e :: rest => (s.step e).run rest

/-- Whether events can happen one after another. -/
def canRun (s : Session) : List Event → Bool
  | [] => true
  | e :: rest => s.admits e && (s.step e).canRun rest

/-! ### Taking and releasing, step by step -/

variable {s : Session} {t : Nat} {now : Instant} {permit : Bool}

theorem step_take_other (h : ¬ s.pool.isAdmitted t = true) : s.step (.take t now) = s := by
  simp [step, Event.effect, openingAfter, take_other h, h]

theorem step_take_nil (h : s.pool.stage? t = some (.admitted permit)) (hi : s.pool.idle = []) :
    s.step (.take t now) = s.step (.findNone t) := by
  have htake : s.pool.take t now = (none, s.pool) := by
    simp only [take, h, hi, pick]
    simp only [← hi]
  simp only [step, Event.effect, openingAfter, htake, hi]
  rfl

theorem step_take_usable (h : s.pool.stage? t = some (.admitted permit)) {i : Idle}
    {rest : List Idle} (hi : s.pool.idle = i :: rest)
    (hu : usable s.pool.limits.idleTimeout now i = true) :
    s.step (.take t now) = s.step (.draw t) := by
  have htake : s.pool.take t now = (some i.connection, s.pool.draw t) := by
    simp only [take, draw, h, hi, pick, hu, if_true]
  simp only [step, Event.effect, openingAfter, htake]
  simp

/-- A connection that is drawn and discarded is gone, and nothing else has changed. -/
theorem step_draw_discard (h : s.pool.stage? t = some (.admitted permit)) {i : Idle}
    {rest : List Idle} (hi : s.pool.idle = i :: rest) :
    (s.step (.draw t)).step (.discard t)
      = { s with pool := { s.pool with idle := rest } } := by
  have hstage : (s.pool.draw t).stage? t = some (.holding permit i.connection) := by
    rw [draw, h, hi]
    exact Keyed.find_set_self ..
  have hpool : (s.pool.draw t).discard t = { s.pool with idle := rest } := by
    rw [discard, hstage, draw, h, hi]
    simp only [setStage, Keyed.set_set, Keyed.set_of_find h]
  simp only [step, Event.effect, openingAfter, hpool]

theorem step_take_stale (h : s.pool.stage? t = some (.admitted permit)) {i : Idle}
    {rest : List Idle} (hi : s.pool.idle = i :: rest)
    (hu : ¬ usable s.pool.limits.idleTimeout now i = true) :
    s.step (.take t now) = ((s.step (.draw t)).step (.discard t)).step (.take t now) := by
  rw [step_draw_discard h hi]
  have h' : ({ s.pool with idle := rest } : Pool).stage? t = some (.admitted permit) := h
  have htake : s.pool.take t now = { s.pool with idle := rest }.take t now := by
    simp only [take, h, h', hi, pick, if_neg hu]
  have hadmitted : ({ s.pool with idle := rest } : Pool).isAdmitted t = s.pool.isAdmitted t := rfl
  simp only [step, Event.effect, openingAfter, htake, hadmitted]

theorem step_release_other (h : ∀ permit c, s.pool.stage? t ≠ some (.holding permit c)) :
    s.step (.release t now) = s := by
  have hpool : s.pool.release t now = s.pool := by
    unfold release
    split
    · next permit c hs => exact absurd hs (h permit c)
    · rfl
  simp only [step, Event.effect, openingAfter, hpool]

theorem step_release {c : Connection} (h : s.pool.stage? t = some (.holding permit c))
    (ho : t ∉ s.opening) :
    s.step (.release t now) = (s.step (.putBack t now)).step (.leave t) := by
  have hkeep : (s.pool.keep c now).stage? t = some (.holding permit c) :=
    (keep_stage ..).trans h
  have hback : ((s.pool.keep c now).setStage t (.admitted permit)).stage? t
      = some (.admitted permit) := Keyed.find_set_self ..
  have hpool : s.pool.release t now = (s.pool.putBack t now).leave t := by
    rw [release, putBack, h]
    simp only [leave, hkeep, hback]
    simp only [setStage, Keyed.erase_set (Keyed.mem_keys_of_find hkeep)]
    rfl
  simp only [step, Event.effect, openingAfter, hpool, List.erase_of_not_mem ho]

end Session

/-- The sessions that can be reached from a new pool. -/
inductive Reached (limits : Limits) (authority : String) : Session → Prop
  | start : Reached limits authority (.start limits authority)
  | step {s e} : Reached limits authority s → s.admits e → Reached limits authority (s.step e)

theorem Reached.run {limits : Limits} {authority : String} (events : List Event) :
    ∀ {s : Session}, Reached limits authority s → s.canRun events = true →
      Reached limits authority (s.run events) := by
  induction events with
  | nil => exact fun h _ => h
  | cons e rest ih =>
    intro s h hr
    obtain ⟨he, hrest⟩ := Bool.and_eq_true_iff.mp hr
    exact ih (h.step he) hrest

/-! ### Invariants -/

section

variable {I : Session → Prop}
  (h : ∀ s e, e.isFine = true → s.admits e = true → I s → I (s.step e))

include h

/-- The idle connections are tried from the front, until one can be used or none is left. -/
theorem kept_by_take {t : Nat} {now : Instant} (l : List Idle) :
    ∀ {s : Session}, s.pool.idle = l → s.admits (.take t now) = true → I s →
      I (s.step (.take t now)) := by
  induction l with
  | nil =>
    intro s hidle he hs
    by_cases hadmitted : s.pool.isAdmitted t = true
    · obtain ⟨permit, hstage⟩ := isAdmitted_iff.mp hadmitted
      rw [Session.step_take_nil hstage hidle]
      exact h s (.findNone t) rfl he hs
    · rwa [Session.step_take_other hadmitted]
  | cons i rest ih =>
    intro s hidle he hs
    by_cases hadmitted : s.pool.isAdmitted t = true
    · obtain ⟨permit, hstage⟩ := isAdmitted_iff.mp hadmitted
      have hdrawn : I (s.step (.draw t)) := h s (.draw t) rfl he hs
      by_cases hu : usable s.pool.limits.idleTimeout now i = true
      · rwa [Session.step_take_usable hstage hidle hu]
      · have hgone := Session.step_draw_discard hstage hidle
        rw [Session.step_take_stale hstage hidle hu]
        refine ih ?_ ?_ (h _ (.discard t) rfl rfl hdrawn)
        · rw [hgone]
        · rw [hgone]
          exact he
    · rwa [Session.step_take_other hadmitted]

/-- What the finer events keep, the others keep too. -/
theorem kept_of_fine {s : Session} {e : Event} (he : s.admits e = true) (hs : I s) :
    I (s.step e) := by
  cases e with
  | take t now => exact kept_by_take h _ rfl he hs
  | release t now =>
    by_cases hholding : ∃ permit c, s.pool.stage? t = some (.holding permit c)
    · obtain ⟨permit, c, hstage⟩ := hholding
      rw [Session.step_release hstage (of_decide_eq_true he)]
      exact h _ (.leave t) rfl rfl (h s (.putBack t now) rfl rfl hs)
    · rwa [Session.step_release_other fun permit c hc => hholding ⟨permit, c, hc⟩]
  | _ => exact h s _ rfl he hs

/-- **Invariants** hold in every session that can be reached. -/
theorem Reached.invariant {limits : Limits} {authority : String}
    (hstart : I (.start limits authority)) {s : Session} (hs : Reached limits authority s) :
    I s := by
  induction hs with
  | start => exact hstart
  | step _ he ih => exact kept_of_fine h he ih

end

end HttpGateway.Pool
