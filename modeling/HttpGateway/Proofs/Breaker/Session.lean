/-
A breaker in use: the permits that are out, and what has been done so far.

* **Event**, **Event.effect** — what can be done to a breaker, and what becomes of it.
* **Session** — a breaker, its permits that were neither recorded nor dropped, and a log of all
  steps, the last one first.
* **Reached** — the sessions to which runs at non-decreasing times lead.

A permit only knows the state in which it was issued. The half-open period in which it was issued is
noted beside it, so that statements can tell the trials of one period from those of another; the
breaker never sees it. Two permits that agree in both are alike, and which of them is used up makes
no difference.
-/
import HttpGateway.Breaker.Basic
import HttpGateway.Proofs.Breaker.Window

namespace HttpGateway.Breaker

/-- A permit: the state in which it was issued, and how many half-open periods had begun by then. -/
structure Grant where
  issuedIn : State
  period : Nat
deriving DecidableEq, Repr

/-- What is done to a breaker. -/
inductive Event
  | acquire
  | record (permit : Grant) (success : Bool) (took : Instant)
  | drop (permit : Grant)
  | reset
  | disable
  | forceOpen
  | read
deriving DecidableEq, Repr

namespace Event

/-- Whether an event is done by hand. -/
def byHand : Event → Bool
  | reset | disable | forceOpen => true
  | _ => false

/-- The permit that an event uses up. -/
def permit? : Event → Option Grant
  | record g _ _ | drop g => some g
  | _ => none

/-- What becomes of a breaker. -/
def effect (b : Breaker) (now : Instant) : Event → Breaker
  | acquire => (b.acquire now).2
  | record g success took => b.record g.issuedIn now success took
  | drop g => b.release g.issuedIn
  | reset => b.reset now
  | disable => b.disable now
  | forceOpen => b.forceOpen now
  | read => b

end Event

/-- A step of a run. Before it, `period` half-open periods had begun. -/
structure Entry where
  time : Instant
  event : Event
  period : Nat
  before : Breaker
  after : Breaker
deriving DecidableEq, Repr

/-- The outcome that a step tells. -/
def Entry.outcome? (limits : Limits) (epoch : Instant) (x : Entry) : Option Outcome :=
  match x.event with
  | .record _ success took =>
    some ⟨Instant.secondsBetween epoch x.time, !success, limits.slowCall ≤ took⟩
  | _ => none

/-- A breaker in use. `period` counts the half-open periods that have begun. -/
structure Session where
  breaker : Breaker
  permits : List Grant
  period : Nat
  log : List Entry
deriving DecidableEq, Repr

namespace Session

/-- A new breaker. -/
def start (limits : Limits) (epoch : Instant) : Session where
  breaker := .create limits epoch
  permits := []
  period := 0
  log := []

/-- Whether an event can happen: only a permit that is out can be used up. -/
def admits (s : Session) (e : Event) : Bool := e.permit?.all (· ∈ s.permits)

/-- How many half-open periods have begun after an event. -/
def periodAfter (s : Session) (now : Instant) (e : Event) : Nat :=
  if s.breaker.state ≠ .halfOpen ∧ (e.effect s.breaker now).state = .halfOpen then s.period + 1
  else s.period

/-- The permits that are out after an event. -/
def permitsAfter (s : Session) (now : Instant) (e : Event) : List Grant :=
  match e with
  | .acquire =>
    match (s.breaker.acquire now).1 with
    | .ok state => ⟨state, s.periodAfter now e⟩ :: s.permits
    | .error _ => s.permits
  | .record g _ _ | .drop g => s.permits.erase g
  | _ => s.permits

/-- What the log says of an event. -/
def entry (s : Session) (now : Instant) (e : Event) : Entry where
  time := now
  event := e
  period := s.period
  before := s.breaker
  after := e.effect s.breaker now

/-- The session after an event. -/
def step (s : Session) (now : Instant) (e : Event) : Session where
  breaker := e.effect s.breaker now
  permits := s.permitsAfter now e
  period := s.periodAfter now e
  log := s.entry now e :: s.log

/-- The session after several events, each at its time. -/
def run (s : Session) : List (Instant × Event) → Session
  | [] => s
  | (now, e) :: rest => (s.step now e).run rest

/-- Whether events can happen one after another, from a time on. -/
def canRun (s : Session) (t : Instant) : List (Instant × Event) → Bool
  | [] => true
  | (now, e) :: rest => t ≤ now && s.admits e && (s.step now e).canRun now rest

end Session

/-- The time of the last event. -/
def lastTime (t : Instant) : List (Instant × Event) → Instant
  | [] => t
  | (now, _) :: rest => lastTime now rest

/-- The sessions that can be reached from a new breaker, and the time of the last step. -/
inductive Reached (limits : Limits) (epoch : Instant) : Instant → Session → Prop
  | start : Reached limits epoch epoch (.start limits epoch)
  | step {t s now e} : Reached limits epoch t s → t ≤ now → s.admits e →
      Reached limits epoch now (s.step now e)

theorem Reached.run {limits : Limits} {epoch : Instant} (events : List (Instant × Event)) :
    ∀ {t : Instant} {s : Session}, Reached limits epoch t s → s.canRun t events = true →
      Reached limits epoch (lastTime t events) (s.run events) := by
  induction events with
  | nil => exact fun h _ => h
  | cons x rest ih =>
    intro t s h hr
    simp only [Session.canRun, Bool.and_eq_true, decide_eq_true_eq] at hr
    exact ih (h.step hr.1.1 hr.1.2) hr.2

section enter

variable (b : Breaker) (state : State) (now : Instant)

@[simp] theorem enter_state : (b.enter state now).state = state := by
  unfold enter
  split
  · assumption
  · cases state <;> rfl

@[simp] theorem enter_limits : (b.enter state now).limits = b.limits := by
  unfold enter
  split
  · rfl
  · cases state <;> rfl

@[simp] theorem enter_epoch : (b.enter state now).epoch = b.epoch := by
  unfold enter
  split
  · rfl
  · cases state <;> rfl

/-- The window is cleared on the way into the closed state and at no other time. -/
theorem enter_window : (b.enter state now).window =
    if b.state ≠ .closed ∧ state = .closed then b.window.clear else b.window := by
  unfold enter
  by_cases h : b.state = state
  · rw [if_pos h, if_neg fun hc => hc.1 (h.trans hc.2)]
  · rw [if_neg h]
    cases state with
    | closed => rw [if_pos ⟨h, rfl⟩]
    | _ => rw [if_neg fun hc => State.noConfusion hc.2]

variable {b state}

theorem enter_trials (h : b.state ≠ state) : (b.enter state now).trials = {} := by
  rw [enter, if_neg h]
  cases state <;> rfl

end enter

/-! ### What one event does -/

section

variable {b : Breaker} (now : Instant)

theorem acquire_closed (h : b.state = .closed) : b.acquire now = (.ok .closed, b) := by
  rw [acquire, h]

theorem acquire_disabled (h : b.state = .disabled) : b.acquire now = (.ok .disabled, b) := by
  rw [acquire, h]

theorem acquire_forcedOpen (h : b.state = .forcedOpen) :
    b.acquire now = (.error .forcedOpen, b) := by
  rw [acquire, h]

theorem acquire_opened (h : b.state = .opened) :
    b.acquire now = if b.waited now < b.limits.openWait then (.error .opened, b)
      else (.ok .halfOpen, { b.enter .halfOpen now with issued := 1 }) := by
  rw [acquire, h]

theorem acquire_halfOpen (h : b.state = .halfOpen) :
    b.acquire now = if b.limits.trials ≤ b.issued then (.error .saturated, b)
      else (.ok .halfOpen, { b with issued := b.issued + 1 }) := by
  rw [acquire, h]

/-- Asking for a permit changes nothing, makes an open breaker half-open with one trial issued, or
issues one more trial. -/
theorem acquire_cases (b : Breaker) (now : Instant) :
    (b.acquire now).2 = b ∨
    b.state = .opened ∧
      b.acquire now = (.ok .halfOpen, { b.enter .halfOpen now with issued := 1 }) ∨
    b.state = .halfOpen ∧ b.issued < b.limits.trials ∧
      b.acquire now = (.ok .halfOpen, { b with issued := b.issued + 1 }) := by
  cases h : b.state with
  | closed => exact .inl (by rw [acquire_closed now h])
  | disabled => exact .inl (by rw [acquire_disabled now h])
  | forcedOpen => exact .inl (by rw [acquire_forcedOpen now h])
  | opened =>
    by_cases hw : b.waited now < b.limits.openWait
    · exact .inl (by rw [acquire_opened now h, if_pos hw])
    · exact .inr (.inl ⟨rfl, by rw [acquire_opened now h, if_neg hw]⟩)
  | halfOpen =>
    by_cases hn : b.limits.trials ≤ b.issued
    · exact .inl (by rw [acquire_halfOpen now h, if_pos hn])
    · exact .inr (.inr ⟨rfl, by omega, by rw [acquire_halfOpen now h, if_neg hn, ← h]⟩)

/-- A permit is issued in the state in which the breaker then is. -/
theorem acquire_granted {state : State} (h : (b.acquire now).1 = .ok state) :
    state = (b.acquire now).2.state := by
  cases hs : b.state with
  | closed =>
    rw [acquire_closed now hs] at h ⊢
    exact (Except.ok.inj h).symm.trans hs.symm
  | disabled =>
    rw [acquire_disabled now hs] at h ⊢
    exact (Except.ok.inj h).symm.trans hs.symm
  | forcedOpen => simp [acquire_forcedOpen now hs] at h
  | opened =>
    rw [acquire_opened now hs] at h ⊢
    split at h
    · simp at h
    · next hw =>
      rw [if_neg hw]
      exact (Except.ok.inj h).symm.trans (enter_state ..).symm
  | halfOpen =>
    rw [acquire_halfOpen now hs] at h ⊢
    split at h
    · simp at h
    · next hn =>
      rw [if_neg hn]
      exact (Except.ok.inj h).symm.trans hs.symm

theorem record_closed (h : b.state = .closed) (permit : State) (success : Bool) (took : Instant) :
    b.record permit now success took
      = b.recordClosed now (!success) (b.limits.slowCall ≤ took) := by
  simp only [record, h]

theorem record_halfOpen (h : b.state = .halfOpen) (success : Bool) (took : Instant) :
    b.record .halfOpen now success took
      = b.recordTrial now (!success) (b.limits.slowCall ≤ took) := by
  simp only [record, h]

/-- What is told at another time, or with another permit, is not counted. -/
theorem record_uncounted {permit : State} (hc : b.state ≠ .closed)
    (ht : ¬ (b.state = .halfOpen ∧ permit = .halfOpen)) (success : Bool) (took : Instant) :
    b.record permit now success took = b := by
  simp only [record]
  split
  · next h => exact absurd h hc
  · next h => exact absurd ⟨h, rfl⟩ ht
  · rfl

theorem release_halfOpen (h : b.state = .halfOpen) :
    b.release .halfOpen = { b with issued := b.issued - 1 } := by
  simp only [release, h]

theorem release_other {permit : State} (ht : ¬ (b.state = .halfOpen ∧ permit = .halfOpen)) :
    b.release permit = b := by
  unfold release
  split
  · next h => exact absurd ⟨h, rfl⟩ ht
  · rfl

end

/-- The limits and the time from which seconds are counted stay as they were set. -/
theorem effect_setup (b : Breaker) (now : Instant) (e : Event) :
    (e.effect b now).limits = b.limits ∧ (e.effect b now).epoch = b.epoch := by
  cases e with
  | acquire =>
    rcases acquire_cases b now with h | ⟨-, h⟩ | ⟨-, -, h⟩ <;> simp [Event.effect, h]
  | record g success took =>
    by_cases hc : b.state = .closed
    · simp only [Event.effect, record_closed now hc, recordClosed]
      split <;> simp
    · by_cases ht : b.state = .halfOpen ∧ g.issuedIn = .halfOpen
      · simp only [Event.effect, ht.2, record_halfOpen now ht.1, recordTrial]
        split <;> simp
      · simp [Event.effect, record_uncounted now hc ht]
  | drop g =>
    by_cases ht : b.state = .halfOpen ∧ g.issuedIn = .halfOpen
    · simp [Event.effect, ht.2, release_halfOpen ht.1]
    · simp [Event.effect, release_other ht]
  | reset => simp [Event.effect, reset]
  | disable => simp [Event.effect, disable]
  | forceOpen => simp [Event.effect, forceOpen]
  | read => exact ⟨rfl, rfl⟩

theorem Reached.setup {limits : Limits} {epoch t : Instant} {s : Session}
    (h : Reached limits epoch t s) : s.breaker.limits = limits ∧ s.breaker.epoch = epoch := by
  induction h with
  | start => exact ⟨rfl, rfl⟩
  | step _ _ _ ih =>
    exact ⟨(effect_setup ..).1.trans ih.1, (effect_setup ..).2.trans ih.2⟩

end HttpGateway.Breaker
