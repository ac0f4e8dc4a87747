/-
Outcomes that come late.

* **Session.underWay** — a breaker in use while one call is under way, whose permit nobody else can
  use up. Whatever is done meanwhile leaves that permit out (**Beside.run**).
* **LeftOut** — what is promised of an outcome: it is counted only for a call that was permitted
  while the breaker was closed, and after a reset that of a trial, or of a call permitted while the
  breaker was disabled, changes nothing.
* `calls_record_closed` — a closed breaker counts every outcome, whatever its permit.
* `late_outcome_left_out_iff` — the promise is kept unless a closed breaker is told of a call that
  was permitted in another state, or a trial from before a reset decides a half-open period after
  it. As long as nothing is done by hand neither happens.
* `late_trial_counted` — a trial that fails after a reset opens the breaker again.

A call is picked out of a run by its ends: where it is asked for, and what is done until its outcome
is told. So it is known whether a reset was in between, which the permits of a session do not tell.
-/
import HttpGateway.Proofs.Breaker.HalfOpen
import HttpGateway.Proofs.Breaker.Overrides

namespace HttpGateway.Breaker

/-! ### A call under way -/

/-- The session in which a call has just been permitted, for all others: without its permit. -/
def Session.underWay (s : Session) (now : Instant) : Session :=
  { s.step now .acquire with permits := s.permits }

/-- A session with one more permit that is out. -/
structure Beside (g : Grant) (s s' : Session) : Prop where
  breaker : s'.breaker = s.breaker
  period : s'.period = s.period
  permits : s'.permits.Perm (g :: s.permits)

section

variable {s s' : Session} {g : Grant} {now : Instant} {e : Event} {permit : State}

theorem beside_underWay (h : (s.breaker.acquire now).1 = .ok permit) :
    Beside ⟨permit, (s.step now .acquire).period⟩ (s.underWay now) (s.step now .acquire) where
  breaker := rfl
  period := rfl
  permits := by
    rw [Session.permits_of_granted h]
    exact .refl _

theorem Beside.admits (h : Beside g s s') (he : s.admits e = true) : s'.admits e = true := by
  have hmem : ∀ g', g' ∈ s.permits → g' ∈ s'.permits := fun g' hg' =>
    h.permits.mem_iff.mpr (List.mem_cons_of_mem _ hg')
  cases e with
  | record g' success took => exact decide_eq_true (hmem g' (of_decide_eq_true he))
  | drop g' => exact decide_eq_true (hmem g' (of_decide_eq_true he))
  | _ => rfl

/-- Another permit that is used up leaves this one out. -/
theorem Beside.erase (h : Beside g s s') {g' : Grant} (hg' : g' ∈ s.permits) :
    (s'.permits.erase g').Perm (g :: s.permits.erase g') := by
  refine (h.permits.erase g').trans ?_
  by_cases heq : g = g'
  · rw [heq, List.erase_cons_head]
    exact List.perm_cons_erase hg'
  · rw [List.erase_cons_tail (by simpa using heq)]

theorem Beside.step (h : Beside g s s') (he : s.admits e = true) (now : Instant) :
    Beside g (s.step now e) (s'.step now e) where
  breaker := by rw [Session.step, Session.step, h.breaker]
  period := by
    show s'.periodAfter now e = s.periodAfter now e
    rw [Session.periodAfter, Session.periodAfter, h.breaker, h.period]
  permits := by
    cases e with
    | acquire =>
      show (s'.permitsAfter now .acquire).Perm (g :: s.permitsAfter now .acquire)
      have hperiod : s'.periodAfter now .acquire = s.periodAfter now .acquire := by
        rw [Session.periodAfter, Session.periodAfter, h.breaker, h.period]
      rw [Session.permitsAfter, Session.permitsAfter, h.breaker, hperiod]
      split
      · exact (h.permits.cons _).trans (.swap ..)
      · exact h.permits
    | record g' success took => exact h.erase (of_decide_eq_true he)
    | drop g' => exact h.erase (of_decide_eq_true he)
    | _ => exact h.permits

theorem Beside.run (events : List (Instant × Event)) :
    ∀ {s s' : Session} {t : Instant}, Beside g s s' → s.canRun t events = true →
      s'.canRun t events = true ∧ Beside g (s.run events) (s'.run events) := by
  induction events with
  | nil => exact fun h _ => ⟨rfl, h⟩
  | cons x rest ih =>
    intro s s' t h hr
    simp only [Session.canRun, Bool.and_eq_true, decide_eq_true_eq] at hr ⊢
    obtain ⟨hcan, hrest⟩ := ih (h.step hr.1.2 x.1) hr.2
    exact ⟨⟨⟨hr.1.1, h.admits hr.1.2⟩, hcan⟩, hrest⟩

/-- Whatever is done while a call is under way, there is a session with its permit beside. -/
theorem Reached.run_underWay {limits : Limits} {epoch t asked : Instant}
    {meanwhile : List (Instant × Event)} (h : Reached limits epoch t s) (ht : t ≤ asked)
    (hpermit : (s.breaker.acquire asked).1 = .ok permit)
    (hrun : (s.underWay asked).canRun asked meanwhile = true) :
    let called := s.step asked .acquire
    Reached limits epoch (lastTime asked meanwhile) (called.run meanwhile) ∧
      Beside ⟨permit, called.period⟩ ((s.underWay asked).run meanwhile) (called.run meanwhile) := by
  intro called
  have hcalled : Reached limits epoch asked called := h.step ht rfl
  obtain ⟨hcan, hbeside⟩ := (beside_underWay hpermit).run meanwhile hrun
  exact ⟨hcalled.run meanwhile hcan, hbeside⟩

end

/-! ### What an outcome does -/

section

variable {b : Breaker} {now t : Instant} {permit : State} (success : Bool) (took : Instant)

/-- What is counted after an outcome. The seconds are counted as before it. -/
theorem calls_record (b : Breaker) (permit : State) (now : Instant) :
    ((b.record permit now success took).metrics now).calls
      = ((b.record permit now success took).window.totals (b.second now)).calls := by
  have hepoch : (b.record permit now success took).epoch = b.epoch :=
    (effect_setup b now (.record ⟨permit, 0⟩ success took)).2
  simp only [metrics, second, hepoch]

/-- A closed breaker counts every outcome. -/
theorem calls_record_closed (permit : State) (hs : b.state = .closed) (hl : 0 < b.window.length)
    (hp : b.window.Placed (b.second t)) (ht : t ≤ now) :
    ((b.record permit now success took).metrics now).calls = (b.metrics now).calls + 1 := by
  have hle : b.second t ≤ b.second now := secondsBetween_mono ht
  rw [calls_record, record_closed now hs, recordClosed_window,
    Window.totals_record hp hle (le_refl _), if_pos (by omega)]
  rfl

/-- One that is not closed counts none, whether the last trial clears the window or not. -/
theorem calls_record_le (now : Instant) (permit : State) (hs : b.state ≠ .closed) :
    ((b.record permit now success took).metrics now).calls ≤ (b.metrics now).calls := by
  by_cases htrial : b.state = .halfOpen ∧ permit = .halfOpen
  · rw [calls_record, htrial.2, record_halfOpen now htrial.1, recordTrial_window now htrial.1]
    split
    · rw [totals_clear]
      exact Nat.zero_le _
    · exact le_refl _
  · rw [record_uncounted now hs htrial]

/-- A trial that does not decide leaves the window and the state alone. -/
theorem record_undecided (hs : b.state = .halfOpen) (h : b.trials.calls + 1 < b.limits.trials) :
    (b.record .halfOpen now success took).window = b.window ∧
      (b.record .halfOpen now success took).state = b.state := by
  rw [record_halfOpen now hs, recordTrial_eq, if_neg (by omega)]
  exact ⟨rfl, rfl⟩

/-- One that decides leads to another state. -/
theorem record_decides (hs : b.state = .halfOpen) (h : b.limits.trials ≤ b.trials.calls + 1) :
    (b.record .halfOpen now success took).state ≠ b.state := by
  rw [record_halfOpen now hs, recordTrial_state now hs, if_pos h, hs]
  split <;> simp

/-- A call is permitted by a closed or disabled breaker, or it is a trial. -/
theorem granted_cases (h : (b.acquire now).1 = .ok permit) :
    permit = .closed ∨ permit = .disabled ∧ b.state = .disabled ∨ permit = .halfOpen := by
  cases hs : b.state with
  | closed =>
    rw [acquire_closed now hs] at h
    exact .inl (Except.ok.inj h).symm
  | disabled =>
    rw [acquire_disabled now hs] at h
    exact .inr (.inl ⟨(Except.ok.inj h).symm, rfl⟩)
  | forcedOpen => simp [acquire_forcedOpen now hs] at h
  | opened =>
    rw [acquire_opened now hs] at h
    split at h
    · simp at h
    · exact .inr (.inr (Except.ok.inj h).symm)
  | halfOpen =>
    rw [acquire_halfOpen now hs] at h
    split at h
    · simp at h
    · exact .inr (.inr (Except.ok.inj h).symm)

/-- Only what is done by hand disables a breaker. -/
theorem disabled_by_hand {e : Event} (he : e.byHand = false) (hs : b.state ≠ .disabled) :
    (e.effect b now).state ≠ .disabled := by
  cases e with
  | acquire =>
    rcases acquire_cases b now with hb | ⟨-, hb⟩ | ⟨hhalf, -, hb⟩ <;> rw [Event.effect, hb]
    · exact hs
    · simp
    · simp [hhalf]
  | record g success took =>
    by_cases hc : b.state = .closed
    · rw [Event.effect, record_closed now hc, recordClosed_eq]
      dsimp only
      split
      · simp
      · exact hs
    by_cases ht : b.state = .halfOpen ∧ g.issuedIn = .halfOpen
    · rw [Event.effect, ht.2, record_halfOpen now ht.1, recordTrial_state now ht.1]
      split
      · split <;> simp
      · simp
    · rw [Event.effect, record_uncounted now hc ht]
      exact hs
  | drop g =>
    have hstate : (b.release g.issuedIn).state = b.state := by
      unfold release
      split <;> rfl
    rw [Event.effect, hstate]
    exact hs
  | read => exact hs
  | _ => simp [Event.byHand] at he

end

theorem Reached.placed {limits : Limits} {epoch t : Instant} {s : Session}
    (h : Reached limits epoch t s) : s.breaker.window.Placed (s.breaker.second t) := by
  rw [second, h.setup.2]
  exact h.mirrors.2.placed

theorem Reached.not_disabled {limits : Limits} {epoch t : Instant} {s : Session}
    (h : Reached limits epoch t s) (hand : ∀ x ∈ s.log, x.event.byHand = false) :
    s.breaker.state ≠ .disabled := by
  induction h with
  | start => simp [Session.start, create]
  | step h _ _ ih =>
    obtain ⟨he, hrest⟩ := List.forall_mem_cons.mp hand
    exact disabled_by_hand he (ih hrest)

theorem Session.log_run (events : List (Instant × Event)) :
    ∀ {s : Session}, (∀ x ∈ s.log, x.event.byHand = false) →
      (∀ x ∈ events, x.2.byHand = false) → ∀ x ∈ (s.run events).log, x.event.byHand = false := by
  induction events with
  | nil => exact fun h _ => h
  | cons y rest ih =>
    intro s h hevents
    obtain ⟨hy, hrest⟩ := List.forall_mem_cons.mp hevents
    exact ih (s := s.step y.1 y.2) (List.forall_mem_cons.mpr ⟨hy, h⟩) hrest

/-! ### The promise -/

/-- Whether a reset is among some events. -/
def HasReset (events : List (Instant × Event)) : Prop := ∃ x ∈ events, x.2 = .reset

/-- What is promised of the outcome of a call: it is counted only if the call was permitted while
the breaker was closed, and after a reset that of a trial, or of a call permitted while the breaker
was disabled, changes neither the window nor the state. -/
structure LeftOut (permit : State) (meanwhile : List (Instant × Event)) (b b' : Breaker)
    (now : Instant) : Prop where
  counted : (b.metrics now).calls < (b'.metrics now).calls → permit = .closed
  unchanged : permit = .halfOpen ∨ permit = .disabled → HasReset meanwhile →
    b'.window = b.window ∧ b'.state = b.state

section

variable {b : Breaker} {told t : Instant} {permit : State} {meanwhile : List (Instant × Event)}

/-- When the promise is kept of an outcome told to a breaker. -/
theorem leftOut_record_iff (hl : 0 < b.window.length) (hp : b.window.Placed (b.second t))
    (ht : t ≤ told) (success : Bool) (took : Instant) :
    LeftOut permit meanwhile b (b.record permit told success took) told ↔
      ¬ (b.state = .closed ∧ permit ≠ .closed) ∧
      ¬ (HasReset meanwhile ∧ permit = .halfOpen ∧ b.state = .halfOpen ∧
        b.limits.trials ≤ b.trials.calls + 1) := by
  constructor
  · intro hleft
    constructor
    · rintro ⟨hs, hne⟩
      have hcounts := calls_record_closed success took permit hs hl hp ht
      exact hne (hleft.counted (by omega))
    · rintro ⟨hreset, rfl, hs, hlast⟩
      exact record_decides success took hs hlast (hleft.unchanged (.inl rfl) hreset).2
  · rintro ⟨hclosed, hdecides⟩
    refine ⟨fun hcounts => ?_, fun hother hreset => ?_⟩
    · by_contra hne
      have hle := calls_record_le success took told permit fun hs => hclosed ⟨hs, hne⟩
      omega
    · have hs : b.state ≠ .closed := fun hs => by
        refine hclosed ⟨hs, fun hpermit => ?_⟩
        rcases hother with h | h <;> simp [h] at hpermit
      by_cases htrial : b.state = .halfOpen ∧ permit = .halfOpen
      · obtain ⟨hs, rfl⟩ := htrial
        have hfew : ¬ b.limits.trials ≤ b.trials.calls + 1 := fun hlast =>
          hdecides ⟨hreset, rfl, hs, hlast⟩
        exact record_undecided success took hs (by omega)
      · rw [record_uncounted told hs htrial]
        exact ⟨rfl, rfl⟩

end

/-- **Which late outcomes are left out.** A call is permitted, anything is done meanwhile, and then
its outcome is told. The promise is kept unless a closed breaker is told of a call that was not
permitted by a closed one, or a trial from before a reset decides a half-open period after it.
Neither happens as long as nothing is done by hand. -/
theorem late_outcome_left_out_iff (settings : Settings.Resilience)
    {epoch t asked told : Instant} {s : Session} (h : Reached (.ofSettings settings) epoch t s)
    (ht : t ≤ asked) {permit : State} (hpermit : (s.breaker.acquire asked).1 = .ok permit)
    {meanwhile : List (Instant × Event)}
    (hrun : (s.underWay asked).canRun asked meanwhile = true)
    (htold : lastTime asked meanwhile ≤ told) (success : Bool) (took : Instant) :
    let b := ((s.underWay asked).run meanwhile).breaker
    let b' := b.record permit told success took
    (LeftOut permit meanwhile b b' told ↔
      ¬ (b.state = .closed ∧ permit ≠ .closed) ∧
      ¬ (HasReset meanwhile ∧ permit = .halfOpen ∧ b.state = .halfOpen ∧
        (Limits.ofSettings settings).trials ≤ b.trials.calls + 1)) ∧
    ((∀ x ∈ s.log, x.event.byHand = false) → (∀ x ∈ meanwhile, x.2.byHand = false) →
      LeftOut permit meanwhile b b' told) := by
  intro b b'
  have hn : 0 < (Limits.ofSettings settings).trials := Nat.le_max_right ..
  have hwindow : 0 < (Limits.ofSettings settings).windowSecs := Nat.le_max_right ..
  -- The breaker is that of a session in which the permit of the call is still out.
  obtain ⟨hreached, hbeside⟩ := h.run_underWay ht hpermit hrun
  have hb : ((s.step asked .acquire).run meanwhile).breaker = b := hbeside.breaker
  have hlength := hreached.mirrors.1
  have hplaced := hreached.placed
  have hlimits := hreached.setup.1
  rw [hb] at hlength hplaced hlimits
  have hiff : LeftOut permit meanwhile b b' told ↔ _ :=
    leftOut_record_iff (hlength ▸ hwindow) hplaced htold success took
  rw [hlimits] at hiff
  refine ⟨hiff, fun hlog hmeanwhile => hiff.mpr ⟨?_, ?_⟩⟩
  · rintro ⟨hs, hne⟩
    have hhand := Session.log_run (s := s.step asked .acquire) meanwhile
      (List.forall_mem_cons.mpr ⟨rfl, hlog⟩) hmeanwhile
    rcases granted_cases hpermit with hclosed | ⟨-, hdisabled⟩ | htrial
    · exact hne hclosed
    · exact h.not_disabled hlog hdisabled
    · -- No trial outlives its period.
      have hout := hbeside.permits.mem_iff.mpr List.mem_cons_self
      have horderly := hreached.orderly hn hhand
      exact horderly.none_left (by rw [hb, hs]; simp) _ hout htrial
  · rintro ⟨⟨x, hx, hreset⟩, -⟩
    have hhand := hmeanwhile x hx
    simp [hreset, Event.byHand] at hhand

/-- Two trials are allowed. One is still out when the breaker is reset, opens again and becomes
half-open once more, and its outcome does not decide there. -/
theorem late_outcome_left_out_iff_undecided :
    let settings : Settings.Resilience :=
      { waitDurationInOpenStateMs := 1, permittedCallsInHalfOpenState := 2
        minimumNumberOfCalls := 1 }
    let s := (Session.start (.ofSettings settings) 0).run
      [(0, .acquire), (0, .record ⟨.closed, 0⟩ false 5)]
    let meanwhile := [(1001, .reset), (1002, .acquire), (1003, .record ⟨.closed, 1⟩ false 5),
      (2003, .acquire)]
    let b := ((s.underWay 1000).run meanwhile).breaker
    let b' := b.record .halfOpen 2004 false 5
    Reached (.ofSettings settings) 0 0 s ∧ (s.breaker.acquire 1000).1 = .ok .halfOpen ∧
      (s.underWay 1000).canRun 1000 meanwhile = true ∧ lastTime 1000 meanwhile ≤ 2004 ∧
      b.state = .halfOpen ∧ LeftOut .halfOpen meanwhile b b' 2004 ∧ b'.state = .halfOpen := by
  intro settings s meanwhile b b'
  have hs : Reached (.ofSettings settings) 0 0 s :=
    .run [(0, .acquire), (0, .record ⟨.closed, 0⟩ false 5)] .start (by decide +kernel)
  have hpermit : (s.breaker.acquire 1000).1 = .ok .halfOpen := by decide +kernel
  have hrun : (s.underWay 1000).canRun 1000 meanwhile = true := by decide +kernel
  have hstate : b.state = .halfOpen := by decide +kernel
  have hfew : ¬ (Limits.ofSettings settings).trials ≤ b.trials.calls + 1 := by decide +kernel
  have htold : lastTime 1000 meanwhile ≤ 2004 := by decide
  have hiff := (late_outcome_left_out_iff settings hs (by decide) hpermit hrun htold false 5).1
  have hleft : LeftOut .halfOpen meanwhile b b' 2004 := hiff.mpr
    ⟨fun hclosed => State.noConfusion (hstate.symm.trans hclosed.1),
      fun hdecides => hfew hdecides.2.2.2⟩
  have hreset : HasReset meanwhile := ⟨_, List.mem_cons_self, rfl⟩
  exact ⟨hs, hpermit, hrun, htold, hstate, hleft,
    (hleft.unchanged (.inl rfl) hreset).2.trans hstate⟩

/-- **A trial that fails after a reset is counted.** The breaker has opened and is half-open when it
is reset. It is closed and counts nothing; then the trial fails, is counted as though it had been
permitted since, and opens the breaker again. A call that was permitted while the breaker was
disabled does the same. -/
theorem late_trial_counted :
    let settings : Settings.Resilience :=
      { waitDurationInOpenStateMs := 1, minimumNumberOfCalls := 1 }
    let limits := Limits.ofSettings settings
    let s := (Session.start limits 0).run [(0, .acquire), (0, .record ⟨.closed, 0⟩ false 5)]
    let b := ((s.underWay 1000).run [(1001, .reset)]).breaker
    let b' := b.record .halfOpen 1002 false 5
    let s₁ := (Session.start limits 0).run [(0, .disable)]
    let b₁ := ((s₁.underWay 1000).run [(1001, .reset)]).breaker
    let b₁' := b₁.record .disabled 1002 false 5
    (Reached limits 0 0 s ∧ (s.breaker.acquire 1000).1 = .ok .halfOpen ∧
      (s.underWay 1000).canRun 1000 [(1001, .reset)] = true ∧
      b.state = .closed ∧ (b.metrics 1002).calls = 0 ∧
      b'.state = .opened ∧ (b'.metrics 1002).calls = 1 ∧
      ¬ LeftOut .halfOpen [(1001, .reset)] b b' 1002) ∧
    Reached limits 0 0 s₁ ∧ (s₁.breaker.acquire 1000).1 = .ok .disabled ∧
      b₁'.state = .opened ∧ ¬ LeftOut .disabled [(1001, .reset)] b₁ b₁' 1002 := by
  intro settings limits s b b' s₁ b₁ b₁'
  have hs : Reached limits 0 0 s :=
    .run [(0, .acquire), (0, .record ⟨.closed, 0⟩ false 5)] .start (by decide +kernel)
  have hs₁ : Reached limits 0 0 s₁ := .run [(0, .disable)] .start (by decide +kernel)
  refine ⟨⟨hs, by decide +kernel, by decide +kernel, by decide +kernel, by decide +kernel,
    by decide +kernel, by decide +kernel, fun hleft => ?_⟩, hs₁, by decide +kernel,
    by decide +kernel, fun hleft => ?_⟩
  · have hcounted := hleft.counted (by decide +kernel)
    simp at hcounted
  · have hcounted := hleft.counted (by decide +kernel)
    simp at hcounted

end HttpGateway.Breaker
