/-
How long a breaker stays open.

* **OpenSince** — a breaker that is open, and since when; `openSince_of_opens` says that a breaker
  that becomes open is so since then.
* **OpenSince.effect**, **OpenSince.run** — an open breaker is not changed at all, whatever is told
  of calls that were permitted earlier, until a call is asked for after the wait.
* `open_until_waited` — so all calls are rejected until the wait is over, and the first one after
  that is a trial.
-/
import HttpGateway.Proofs.Breaker.History
import HttpGateway.Proofs.Breaker.Trials

namespace HttpGateway.Breaker

/-- A breaker that has been open since a time. -/
structure OpenSince (b : Breaker) (t : Instant) : Prop where
  state : b.state = .opened
  openedAt : b.openedAt = some t

section

variable {b : Breaker} {t now : Instant} {e : Event}

theorem openSince_enter (h : b.state ≠ .opened) (now : Instant) :
    OpenSince (b.enter .opened now) now := by
  rw [enter, if_neg h]
  exact ⟨rfl, rfl⟩

/-- A breaker that becomes open has been so since then. -/
theorem openSince_of_opens (h : b.state ≠ .opened) (h' : (e.effect b now).state = .opened) :
    OpenSince (e.effect b now) now := by
  cases e with
  | acquire =>
    -- A call that is asked for may make the breaker half-open, but never open.
    rcases acquire_cases b now with hb | ⟨hs, -⟩ | ⟨hs, -, hb⟩
    · rw [Event.effect, hb] at h'
      exact absurd h' h
    · exact absurd hs h
    · rw [Event.effect, hb] at h'
      simp [hs] at h'
  | record g success took =>
    by_cases hc : b.state = .closed
    · simp only [Event.effect, record_closed now hc, recordClosed_eq] at h' ⊢
      split at h'
      · next hx =>
        rw [if_pos hx]
        exact openSince_enter (by simp [hc]) now
      · exact absurd h' h
    by_cases ht : b.state = .halfOpen ∧ g.issuedIn = .halfOpen
    · simp only [Event.effect, ht.2, record_halfOpen now ht.1, recordTrial_eq] at h' ⊢
      split at h'
      · next hlast =>
        rw [enter_state] at h'
        rw [if_pos hlast, h']
        exact openSince_enter (b := { b with trials := b.trials.count _ _ }) h now
      · exact absurd h' h
    · rw [Event.effect, record_uncounted now hc ht] at h'
      exact absurd h' h
  | drop g =>
    have hstate : (b.release g.issuedIn).state = b.state := by
      unfold release
      split <;> rfl
    exact absurd (hstate.symm.trans h') h
  | reset => simp [Event.effect, reset] at h'
  | disable => simp [Event.effect, disable] at h'
  | forceOpen => simp [Event.effect, forceOpen] at h'
  | read => exact absurd h' h

namespace OpenSince

variable (h : OpenSince b t)

include h

theorem waited (now : Instant) : b.waited now = now - t := by
  rw [Breaker.waited, h.openedAt]

/-- Until the wait is over no call is permitted. -/
theorem acquire_early (ht : t ≤ now) (hnow : now < t + b.limits.openWait) :
    b.acquire now = (.error .opened, b) := by
  have hwaited : b.waited now < b.limits.openWait := by
    rw [h.waited]
    exact Nat.sub_lt_left_of_lt_add ht hnow
  rw [acquire_opened now h.state, if_pos hwaited]

/-- From then on a call is permitted. It is the first trial. -/
theorem acquire_late (hnow : t + b.limits.openWait ≤ now) :
    b.acquire now = (.ok .halfOpen, { b.enter .halfOpen now with issued := 1 }) := by
  have hwaited : ¬ b.waited now < b.limits.openWait := by
    rw [h.waited, not_lt]
    exact Nat.le_sub_of_add_le' hnow
  rw [acquire_opened now h.state, if_neg hwaited]

/-- Until a call is asked for after the wait, nothing changes the breaker that is not done by
hand. -/
theorem effect (ht : t ≤ now) (hhand : e.byHand = false)
    (hearly : e = .acquire → now < t + b.limits.openWait) : e.effect b now = b := by
  -- Outcomes count while the breaker is closed, or for trials while it is half-open.
  have hclosed : b.state ≠ .closed := by simp [h.state]
  have htrial : ∀ permit : State, ¬ (b.state = .halfOpen ∧ permit = .halfOpen) := by
    simp [h.state]
  cases e with
  | acquire => rw [Event.effect, h.acquire_early ht (hearly rfl)]
  | record g success took => exact record_uncounted now hclosed (htrial _) ..
  | drop g => exact release_other (htrial _)
  | read => rfl
  | _ => simp [Event.byHand] at hhand

end OpenSince

end

/-! ### A run while the breaker is open -/

theorem lastTime_of_canRun (events : List (Instant × Event)) :
    ∀ {s : Session} {t : Instant}, s.canRun t events = true →
      t ≤ lastTime t events ∧ ∀ x ∈ events, x.1 ≤ lastTime t events := by
  induction events with
  | nil => exact fun _ => ⟨le_refl _, by simp⟩
  | cons x rest ih =>
    intro s t hr
    simp only [Session.canRun, Bool.and_eq_true, decide_eq_true_eq] at hr
    obtain ⟨hle, hall⟩ := ih hr.2
    exact ⟨hr.1.1.trans hle, List.forall_mem_cons.mpr ⟨hle, hall⟩⟩

/-- What no event changes, no run of events does. -/
theorem OpenSince.run {t : Instant} (events : List (Instant × Event)) :
    ∀ {s : Session} {now : Instant}, OpenSince s.breaker t → t ≤ now →
      s.canRun now events = true → (∀ x ∈ events, x.2.byHand = false) →
      (∀ x ∈ events, x.2 = .acquire → x.1 < t + s.breaker.limits.openWait) →
      (s.run events).breaker = s.breaker := by
  induction events with
  | nil => exact fun _ _ _ _ _ => rfl
  | cons x rest ih =>
    intro s now h ht hr hhand hearly
    simp only [Session.canRun, Bool.and_eq_true, decide_eq_true_eq] at hr
    obtain ⟨hhand, hhands⟩ := List.forall_mem_cons.mp hhand
    obtain ⟨hearly, hearlies⟩ := List.forall_mem_cons.mp hearly
    have hx : t ≤ x.1 := ht.trans hr.1.1
    have hsame : (s.step x.1 x.2).breaker = s.breaker := h.effect hx hhand hearly
    rw [Session.run, ih (hsame ▸ h) hx hr.2 hhands (hsame ▸ hearlies), hsame]

/-- **A breaker that has opened lets nothing through until the wait is over.** It opens with a step
at the time `t`, and a run follows in which nothing is done by hand. A call that is asked for
before the wait is over is rejected as open. As long as none is asked for after it, the breaker is
just as it was when it opened, whatever has been recorded or dropped; the first call asked for after
it is permitted and makes the breaker half-open. -/
theorem open_until_waited {limits : Limits} {epoch t₀ t : Instant} {s : Session} {e : Event}
    (h : Reached limits epoch t₀ s) (ht : t₀ ≤ t) (he : s.admits e = true)
    (hbefore : s.breaker.state ≠ .opened) (hopens : (s.step t e).breaker.state = .opened) :
    ∀ events, (s.step t e).canRun t events = true → (∀ x ∈ events, x.2.byHand = false) →
      let before := (s.step t e).breaker
      let b := ((s.step t e).run events).breaker
      ∀ now, lastTime t events ≤ now →
        (now < t + limits.openWait → b = before ∧ b.acquire now = (.error .opened, b)) ∧
        ((∀ x ∈ events, x.2 = .acquire → x.1 < t + limits.openWait) →
          b = before ∧ (t + limits.openWait ≤ now →
            (b.acquire now).1 = .ok .halfOpen ∧ (b.acquire now).2.state = .halfOpen)) := by
  intro events hr hhand before b now hnow
  have hopen : OpenSince before t := openSince_of_opens hbefore hopens
  have hlimits : before.limits = limits := (h.step ht he).setup.1
  have hsame : (∀ x ∈ events, x.2 = .acquire → x.1 < t + limits.openWait) → b = before := by
    intro hearly
    rw [← hlimits] at hearly
    exact OpenSince.run events hopen (le_refl t) hr hhand hearly
  constructor
  · intro hwait
    -- All that has happened so far was before the wait is over, as this is.
    obtain ⟨hle, hall⟩ := lastTime_of_canRun events hr
    have hb : b = before := hsame fun x hx _ => ((hall x hx).trans hnow).trans_lt hwait
    refine ⟨hb, ?_⟩
    rw [hb]
    exact hopen.acquire_early (hle.trans hnow) (hlimits ▸ hwait)
  · intro hearly
    have hb := hsame hearly
    refine ⟨hb, fun hwait => ?_⟩
    rw [hb, hopen.acquire_late (hlimits ▸ hwait)]
    exact ⟨rfl, enter_state ..⟩

/-- The breaker opens at 5 for 10 microseconds while two more calls are under way. One of them then
succeeds, another call is asked for and rejected, the last one is given up, and nothing of that
changes anything: the next call is rejected at 14 and permitted at 15. -/
theorem open_until_waited_ten :
    let limits : Limits := ⟨.finite 50, .finite 50, 1000000, 10, 1, 1, 1⟩
    let call : Grant := ⟨.closed, 0⟩
    let s := (Session.start limits 0).run [(0, .acquire), (0, .acquire), (1, .acquire)]
    let e : Event := .record call false 5
    let events := [(7, .record call true 5), (9, .acquire), (12, .drop call)]
    let b := ((s.step 5 e).run events).breaker
    Reached limits 0 1 s ∧ s.breaker.state = .closed ∧ (s.step 5 e).breaker.state = .opened ∧
      (s.step 5 e).canRun 5 events = true ∧ b = (s.step 5 e).breaker ∧
      b.acquire 14 = (.error .opened, b) ∧ (b.acquire 15).1 = .ok .halfOpen := by
  intro limits call s e events b
  have hs : Reached limits 0 1 s :=
    .run [(0, .acquire), (0, .acquire), (1, .acquire)] .start (by decide +kernel)
  have hopens : (s.step 5 e).breaker.state = .opened := by decide +kernel
  have hr : (s.step 5 e).canRun 5 events = true := by decide +kernel
  have h := open_until_waited hs (by decide) (by decide +kernel) (by decide +kernel) hopens events hr
    (by decide)
  obtain ⟨hb, hearly⟩ := (h 14 (by decide)).1 (by decide)
  have hlate := ((h 15 (by decide)).2 (by decide)).2 (by decide)
  exact ⟨hs, by decide +kernel, hopens, hr, hb, hearly, hlate.1⟩

end HttpGateway.Breaker
