/-
What is set by hand holds until it is lifted by hand.

A breaker that is forced open or disabled gives everyone the same answer (**State.standing?**), and
only a reset or the other one of the two takes it out of that state (**Event.lifts**).

* `effect_standing`, `run_standing` — everything else leaves such a breaker as it is: calls that are
  asked for, and outcomes of calls that were permitted before or since.
* **Idle** — outside a half-open period no trial is issued or counted. It holds in every run
  (`run_idle`), so that a reset finds no trial to forget when the breaker is closed already.
* `overrides_stand_until_lifted` — the two together, for every state that a run leads to.

Times and permits are arbitrary here. Whether time goes on, and who still has which permit, makes no
difference to what is set by hand.
-/
import HttpGateway.Proofs.Breaker.History
import HttpGateway.Proofs.Breaker.Trials

namespace HttpGateway.Breaker

/-- The answer to every call in a state that is set by hand. -/
def State.standing? : State → Option (Except Rejection State)
  | forcedOpen => some (.error .forcedOpen)
  | disabled => some (.ok .disabled)
  | _ => none

/-- Whether an event takes a breaker out of a state that was set by hand. -/
def Event.lifts (state : State) : Event → Bool
  | reset => true
  | disable => state ≠ .disabled
  | forceOpen => state ≠ .forcedOpen
  | _ => false

section

variable {b : Breaker} {now : Instant} {e : Event} {answer : Except Rejection State}

theorem acquire_standing (h : b.state.standing? = some answer) (now : Instant) :
    b.acquire now = (answer, b) := by
  cases hs : b.state with
  | forcedOpen =>
    rw [acquire_forcedOpen now hs]
    rw [hs] at h
    rw [← Option.some.inj h]
  | disabled =>
    rw [acquire_disabled now hs]
    rw [hs] at h
    rw [← Option.some.inj h]
  | _ => simp [hs, State.standing?] at h

/-- Nothing is changed but by what lifts the state. -/
theorem effect_standing (h : b.state.standing? = some answer) (he : e.lifts b.state = false)
    (now : Instant) : e.effect b now = b := by
  have hclosed : b.state ≠ .closed := fun hs => by simp [hs, State.standing?] at h
  have htrial (permit : State) : ¬ (b.state = .halfOpen ∧ permit = .halfOpen) :=
    fun hs => by simp [hs.1, State.standing?] at h
  cases e with
  | acquire => rw [Event.effect, acquire_standing h]
  | record g success took => exact record_uncounted now hclosed (htrial _) ..
  | drop g => exact release_other (htrial _)
  | reset => simp [Event.lifts] at he
  | disable => exact if_pos (by simpa [Event.lifts] using he)
  | forceOpen => exact if_pos (by simpa [Event.lifts] using he)
  | read => rfl

end

theorem lifts_forcedOpen {e : Event} (h : e ≠ .reset ∧ e ≠ .disable) :
    e.lifts .forcedOpen = false := by
  cases e <;> simp_all [Event.lifts]

theorem lifts_disabled {e : Event} (h : e ≠ .reset ∧ e ≠ .forceOpen) :
    e.lifts .disabled = false := by
  cases e <;> simp_all [Event.lifts]

/-- What no event changes, no run of events does. -/
theorem run_standing {state : State} {answer : Except Rejection State}
    (hanswer : state.standing? = some answer) (events : List (Instant × Event)) :
    ∀ {s : Session}, s.breaker.state = state → (∀ x ∈ events, x.2.lifts state = false) →
      (s.run events).breaker = s.breaker ∧ (s.run events).breaker.state = state ∧
        ∀ now, (s.run events).breaker.acquire now = (answer, (s.run events).breaker) := by
  induction events with
  | nil =>
    intro s h _
    exact ⟨rfl, h, acquire_standing (h ▸ hanswer)⟩
  | cons x rest ih =>
    intro s h hevents
    obtain ⟨hx, hrest⟩ := List.forall_mem_cons.mp hevents
    have hsame : (s.step x.1 x.2).breaker = s.breaker :=
      effect_standing (h ▸ hanswer) (h ▸ hx) x.1
    obtain ⟨hrun, hstate, hacquire⟩ := ih (s := s.step x.1 x.2) (hsame ▸ h) hrest
    exact ⟨hrun.trans hsame, hstate, hacquire⟩

/-! ### Trials outside a half-open period -/

/-- Outside a half-open period no trial is issued or counted. -/
def Idle (b : Breaker) : Prop := b.state ≠ .halfOpen → b.issued = 0 ∧ b.trials = {}

section

variable {b : Breaker}

theorem Idle.enter (h : Idle b) (state : State) (now : Instant) : Idle (b.enter state now) := by
  by_cases hs : b.state = state
  · rw [Breaker.enter, if_pos hs]
    exact h
  · intro _
    rw [Breaker.enter, if_neg hs]
    cases state <;> exact ⟨rfl, rfl⟩

theorem idle_of_halfOpen (h : b.state = .halfOpen) : Idle b := fun hs => absurd h hs

theorem Idle.window (h : Idle b) (w : Window) : Idle { b with window := w } := h

theorem Idle.effect (h : Idle b) (now : Instant) (e : Event) : Idle (e.effect b now) := by
  cases e with
  | acquire =>
    rcases acquire_cases b now with hb | ⟨-, hb⟩ | ⟨hs, -, hb⟩
    · rw [Event.effect, hb]
      exact h
    · rw [Event.effect, hb]
      exact idle_of_halfOpen (enter_state _ _ now)
    · rw [Event.effect, hb]
      exact idle_of_halfOpen hs
  | record g success took =>
    by_cases hc : b.state = .closed
    · simp only [Event.effect, record_closed now hc, recordClosed_eq]
      split
      · exact (h.window _).enter _ _
      · exact h.window _
    by_cases ht : b.state = .halfOpen ∧ g.issuedIn = .halfOpen
    · simp only [Event.effect, ht.2, record_halfOpen now ht.1, recordTrial_eq]
      have hcounted : Idle
          { b with trials := b.trials.count (!success) (b.limits.slowCall ≤ took) } :=
        idle_of_halfOpen ht.1
      split
      · exact hcounted.enter _ _
      · exact hcounted
    · rw [Event.effect, record_uncounted now hc ht]
      exact h
  | drop g =>
    by_cases ht : b.state = .halfOpen ∧ g.issuedIn = .halfOpen
    · rw [Event.effect, ht.2, release_halfOpen ht.1]
      exact idle_of_halfOpen ht.1
    · rw [Event.effect, release_other ht]
      exact h
  | reset => exact (h.enter .closed now).window _
  | disable => exact h.enter .disabled now
  | forceOpen => exact h.enter .forcedOpen now
  | read => exact h

end

theorem run_idle (events : List (Instant × Event)) :
    ∀ {s : Session}, Idle s.breaker → Idle (s.run events).breaker := by
  induction events with
  | nil => exact id
  | cons x rest ih => exact fun h => ih (h.effect x.1 x.2)

/-! ### What is set by hand -/

/-- Nothing is counted in a window that has been cleared. -/
theorem totals_clear (w : Window) (second : Nat) : w.clear.totals second = {} :=
  (w.mirrors_clear 0).totals_eq second (Nat.zero_le _)

/-- **What is set by hand stands until it is lifted by hand.** A breaker in any state to which a run
leads is forced open, and a run follows without a reset and without disabling it. Then it is as it
was when it was forced open, and every call that is asked for is rejected. The same holds of a
breaker that is disabled, with every call permitted, until it is reset or forced open. After a reset
it is closed, and all its counts are zero. -/
theorem overrides_stand_until_lifted (limits : Limits) (epoch : Instant)
    (history : List (Instant × Event)) (t : Instant) :
    let s := (Session.start limits epoch).run history
    (∀ events, (∀ x ∈ events, x.2 ≠ .reset ∧ x.2 ≠ .disable) →
      let b := ((s.step t .forceOpen).run events).breaker
      b = s.breaker.forceOpen t ∧ b.state = .forcedOpen ∧
        ∀ now, b.acquire now = (.error .forcedOpen, b)) ∧
    (∀ events, (∀ x ∈ events, x.2 ≠ .reset ∧ x.2 ≠ .forceOpen) →
      let b := ((s.step t .disable).run events).breaker
      b = s.breaker.disable t ∧ b.state = .disabled ∧
        ∀ now, b.acquire now = (.ok .disabled, b)) ∧
    let b := (s.step t .reset).breaker
    b.state = .closed ∧ b.issued = 0 ∧ b.trials = {} ∧ (∀ second, b.window.totals second = {}) ∧
      ∀ now, (b.metrics now).calls = 0 ∧ (b.metrics now).failures = 0 ∧
        (b.metrics now).slow = 0 := by
  intro s
  refine ⟨fun events hevents => ?_, fun events hevents => ?_, ?_⟩
  · have hstate : (s.step t .forceOpen).breaker.state = .forcedOpen := enter_state _ _ t
    exact run_standing rfl events hstate fun x hx => lifts_forcedOpen (hevents x hx)
  · have hstate : (s.step t .disable).breaker.state = .disabled := enter_state _ _ t
    exact run_standing rfl events hstate fun x hx => lifts_disabled (hevents x hx)
  · have hidle : Idle (s.step t .reset).breaker :=
      (run_idle history (s := .start limits epoch) fun _ => ⟨rfl, rfl⟩).effect t .reset
    have hstate : (s.step t .reset).breaker.state = .closed := enter_state ..
    obtain ⟨hissued, htrials⟩ := hidle (by simp [hstate])
    have htotals (second : Nat) : (s.step t .reset).breaker.window.totals second = {} :=
      totals_clear _ second
    refine ⟨hstate, hissued, htrials, htotals, fun now => ?_⟩
    simp only [metrics, htotals, and_self]

/-- The breaker is forced open while a trial is under way. The trial is then recorded as a success,
more than the wait goes by, and another call is asked for, which is rejected. If the breaker is
disabled instead, calls are permitted, and their failures do not count. A reset forgets the trial
that is still under way. -/
theorem overrides_stand_until_lifted_on_trial :
    let limits : Limits := ⟨.finite 50, .finite 50, 1000000, 10, 2, 1, 1⟩
    let history := [(0, .acquire), (0, .record ⟨.closed, 0⟩ false 5), (10, .acquire)]
    let s := (Session.start limits 0).run history
    let forced := [(12, .record ⟨.halfOpen, 1⟩ true 5), (50, .acquire)]
    let disabled := [(12, .acquire), (13, .record ⟨.disabled, 1⟩ false 5)]
    let b := ((s.step 11 .forceOpen).run forced).breaker
    let b' := ((s.step 11 .disable).run disabled).breaker
    s.breaker.state = .halfOpen ∧ s.breaker.issued = 1 ∧ b = s.breaker.forceOpen 11 ∧
      b.acquire 50 = (.error .forcedOpen, b) ∧ b' = s.breaker.disable 11 ∧
      b'.acquire 50 = (.ok .disabled, b') ∧ (s.step 11 .reset).breaker.issued = 0 := by
  intro limits history s forced disabled b b'
  obtain ⟨hforced, hdisabled, -, hissued, -⟩ := overrides_stand_until_lifted limits 0 history 11
  obtain ⟨hb, -, hrejected⟩ := hforced forced (by decide)
  obtain ⟨hb', -, hpermitted⟩ := hdisabled disabled (by decide)
  exact ⟨by decide +kernel, by decide +kernel, hb, hrejected 50, hb', hpermitted 50, hissued⟩

end HttpGateway.Breaker
