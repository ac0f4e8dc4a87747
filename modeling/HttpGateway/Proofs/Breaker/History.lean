/-
What a closed breaker counts, and when it opens.

* **Session.history** — the outcomes that were recorded while the breaker was closed, since it last
  became closed or was reset. This is read off the log and knows nothing of windows.
* **Reached.mirrors** — in every session that can be reached the window counts just these outcomes,
  through all states: it is kept while the breaker is open and cleared on the way back.
* `metrics_and_opening` — so the counts that are read at any time are those of the history within
  the last seconds, and the breaker opens with exactly those records after which they are too bad.
-/
import HttpGateway.Proofs.Breaker.Session

namespace HttpGateway.Breaker

/-- Whether the counts start afresh: the breaker has become closed, or it was reset. -/
def Entry.startsAfresh (x : Entry) : Bool :=
  x.event = .reset || x.before.state ≠ .closed && x.after.state = .closed

theorem startsAfresh_iff {x : Entry} :
    x.startsAfresh = true ↔
      x.event = .reset ∨ x.before.state ≠ .closed ∧ x.after.state = .closed := by
  simp [Entry.startsAfresh]

namespace Session

/-- The outcomes recorded while the breaker was closed, since it last became closed or was reset. -/
def history (s : Session) (limits : Limits) (epoch : Instant) : List Outcome :=
  ((s.log.takeWhile (!·.startsAfresh)).filter (·.before.state = .closed)).filterMap
    (·.outcome? limits epoch)

/-- Those of them that lie in the last seconds. -/
def recent (s : Session) (limits : Limits) (epoch now : Instant) : List Outcome :=
  (s.history limits epoch).filter
    (·.within limits.windowSecs (Instant.secondsBetween epoch now))

variable {s : Session} {limits : Limits} {epoch now : Instant} {e : Event}

theorem history_of_startsAfresh (h : (s.entry now e).startsAfresh = true) :
    (s.step now e).history limits epoch = [] := by
  simp [history, step, h]

theorem history_of_record {g : Grant} {success : Bool} {took : Instant}
    (h : s.breaker.state = .closed) :
    (s.step now (.record g success took)).history limits epoch
      = ⟨Instant.secondsBetween epoch now, !success, limits.slowCall ≤ took⟩
        :: s.history limits epoch := by
  have hx : (s.entry now (.record g success took)).startsAfresh = false := by
    simp [Entry.startsAfresh, entry, h]
  have hc : (s.entry now (.record g success took)).before.state = .closed := h
  rw [history, step, List.takeWhile_cons, hx, Bool.not_false, if_pos rfl, List.filter_cons,
    if_pos (decide_eq_true hc)]
  rfl

theorem history_of_other (h : (s.entry now e).startsAfresh = false)
    (ho : s.breaker.state ≠ .closed ∨ (s.entry now e).outcome? limits epoch = none) :
    (s.step now e).history limits epoch = s.history limits epoch := by
  rw [history, step, List.takeWhile_cons, h, Bool.not_false, if_pos rfl, List.filter_cons]
  rcases ho with hc | hn
  · have hx : ¬ decide ((s.entry now e).before.state = .closed) = true :=
      fun hx => hc (of_decide_eq_true hx)
    rw [if_neg hx]
    rfl
  · split
    · rw [List.filterMap_cons, hn]
      rfl
    · rfl

end Session

/-! ### What one event does to the window -/

section

variable {b : Breaker} (now : Instant)

theorem recordClosed_eq (b : Breaker) (failure slow : Bool) :
    b.recordClosed now failure slow =
      let after := { b with window := b.window.record (b.second now) failure slow }
      let t := after.window.totals (b.second now)
      if b.limits.minimumCalls ≤ t.calls ∧ b.exceeds t = true then after.enter .opened now
      else after := by
  simp only [recordClosed, Bool.and_eq_true, decide_eq_true_eq]
  rfl

theorem recordClosed_window (b : Breaker) (failure slow : Bool) :
    (b.recordClosed now failure slow).window = b.window.record (b.second now) failure slow := by
  simp only [recordClosed_eq]
  split
  · rw [enter_window, if_neg (by simp)]
  · rfl

theorem recordClosed_opened_iff (h : b.state = .closed) (failure slow : Bool) :
    (b.recordClosed now failure slow).state = .opened ↔
      let t := (b.recordClosed now failure slow).window.totals (b.second now)
      b.limits.minimumCalls ≤ t.calls ∧ b.exceeds t = true := by
  simp only [recordClosed_window]
  simp only [recordClosed_eq]
  split
  · next hx => exact iff_of_true (enter_state ..) hx
  · next hx => exact iff_of_false (by simp [h]) hx

/-- The last trial clears the window if it closes the breaker; no trial touches it otherwise. -/
theorem recordTrial_window (h : b.state = .halfOpen) (failure slow : Bool) :
    (b.recordTrial now failure slow).window =
      if (b.recordTrial now failure slow).state = .closed then b.window.clear else b.window := by
  simp only [recordTrial]
  split
  · rw [enter_window, enter_state]
    simp [h]
  · simp [h]

theorem acquire_window (b : Breaker) : (b.acquire now).2.window = b.window := by
  rcases acquire_cases b now with h | ⟨-, h⟩ | ⟨-, -, h⟩
  · rw [h]
  · rw [h]
    exact (enter_window ..).trans (if_neg (by simp))
  · rw [h]

theorem acquire_state_closed (h : (b.acquire now).2.state = .closed) : b.state = .closed := by
  rcases acquire_cases b now with hb | ⟨-, hb⟩ | ⟨hs, -, hb⟩ <;> rw [hb] at h
  · exact h
  · simp at h
  · simp [hs] at h

/-- What one event does to the window: it is cleared when the counts start afresh, an outcome that
is told while the breaker is closed is counted, and all other events leave it alone. -/
theorem window_cases (b : Breaker) (e : Event) :
    ((e = .reset ∨ b.state ≠ .closed ∧ (e.effect b now).state = .closed) ∧
      (e.effect b now).window = b.window.clear) ∨
    (∃ g success took, e = .record g success took ∧ b.state = .closed ∧
      (e.effect b now).window
        = b.window.record (b.second now) (!success) (b.limits.slowCall ≤ took)) ∨
    (e ≠ .reset ∧ ((e.effect b now).state = .closed → b.state = .closed) ∧
      (b.state ≠ .closed ∨ ∀ g success took, e ≠ .record g success took) ∧
      (e.effect b now).window = b.window) := by
  cases e with
  | acquire =>
    exact .inr (.inr ⟨by simp, acquire_state_closed now, .inr (by simp), acquire_window now b⟩)
  | record g success took =>
    -- told to a closed breaker, of a trial to a half-open one, or in vain
    by_cases hc : b.state = .closed
    · refine .inr (.inl ⟨g, success, took, rfl, hc, ?_⟩)
      rw [Event.effect, record_closed now hc, recordClosed_window]
    by_cases ht : b.state = .halfOpen ∧ g.issuedIn = .halfOpen
    · have hw := recordTrial_window now ht.1 (!success) (b.limits.slowCall ≤ took)
      rw [← record_halfOpen now ht.1, ← ht.2] at hw
      by_cases hst : (b.record g.issuedIn now success took).state = .closed
      · exact .inl ⟨.inr ⟨hc, hst⟩, hw.trans (if_pos hst)⟩
      · exact .inr (.inr ⟨by simp, fun h => absurd h hst, .inl hc, hw.trans (if_neg hst)⟩)
    · refine .inr (.inr ⟨by simp, ?_, .inl hc, ?_⟩) <;>
        rw [Event.effect, record_uncounted now hc ht]
      exact id
  | drop g =>
    have heff : (b.release g.issuedIn).window = b.window
        ∧ (b.release g.issuedIn).state = b.state := by
      unfold release
      split <;> exact ⟨rfl, rfl⟩
    exact .inr (.inr ⟨by simp, fun h => heff.2.symm.trans h, .inr (by simp), heff.1⟩)
  | reset =>
    refine .inl ⟨.inl rfl, ?_⟩
    simp only [Event.effect, reset, enter_window]
    split <;> simp [Window.clear]
  | disable =>
    refine .inr (.inr ⟨by simp, by simp [Event.effect, disable], .inr (by simp), ?_⟩)
    exact (enter_window _ .disabled now).trans (if_neg (by simp))
  | forceOpen =>
    refine .inr (.inr ⟨by simp, by simp [Event.effect, forceOpen], .inr (by simp), ?_⟩)
    exact (enter_window _ .forcedOpen now).trans (if_neg (by simp))
  | read => exact .inr (.inr ⟨by simp, id, .inr (by simp), rfl⟩)

theorem effect_length (b : Breaker) (e : Event) :
    (e.effect b now).window.length = b.window.length := by
  rcases window_cases now b e with ⟨-, h⟩ | ⟨_, _, _, -, -, h⟩ | ⟨-, -, -, h⟩ <;> simp [h]

end

/-! ### The window and the history -/

open Window

theorem secondsBetween_mono {epoch t now : Instant} (h : t ≤ now) :
    Instant.secondsBetween epoch t ≤ Instant.secondsBetween epoch now :=
  Nat.div_le_div_right (Nat.sub_le_sub_right h _)

/-- One event keeps the window and the history in step. -/
theorem Session.mirrors_step {s : Session} {t now : Instant}
    (h : s.breaker.window.Mirrors (s.history s.breaker.limits s.breaker.epoch) (s.breaker.second t))
    (ht : t ≤ now) (e : Event) :
    (s.step now e).breaker.window.Mirrors
      ((s.step now e).history s.breaker.limits s.breaker.epoch) (s.breaker.second now) := by
  have hle : s.breaker.second t ≤ s.breaker.second now := secondsBetween_mono ht
  rcases window_cases now s.breaker e with ⟨hx, hw⟩ | ⟨g, success, took, rfl, hc, hw⟩ |
    ⟨he, hst, ho, hw⟩
  · rw [history_of_startsAfresh (startsAfresh_iff.mpr hx), step, hw]
    exact mirrors_clear ..
  · rw [history_of_record hc, step, hw]
    exact h.record (o := ⟨_, _, _⟩) hle
  · have hx : ¬ (s.entry now e).startsAfresh = true := fun hx =>
      (startsAfresh_iff.mp hx).elim he fun hc => hc.1 (hst hc.2)
    have ho' : s.breaker.state ≠ .closed
        ∨ (s.entry now e).outcome? s.breaker.limits s.breaker.epoch = none := by
      refine ho.imp_right fun hr => ?_
      cases e with
      | record g success took => exact absurd rfl (hr g success took)
      | _ => rfl
    rw [history_of_other (Bool.eq_false_iff.mpr hx) ho', step, hw]
    exact h.later hle

/-- **The window and the history agree** in every session that can be reached. -/
theorem Reached.mirrors {limits : Limits} {epoch t : Instant} {s : Session}
    (h : Reached limits epoch t s) :
    s.breaker.window.length = limits.windowSecs ∧
      s.breaker.window.Mirrors (s.history limits epoch) (Instant.secondsBetween epoch t) := by
  induction h with
  | start => exact ⟨length_empty _, mirrors_empty ..⟩
  | @step t s now e h ht _ ih =>
    refine ⟨(effect_length ..).trans ih.1, ?_⟩
    obtain ⟨hlimits, hepoch⟩ := h.setup
    have hm : s.breaker.window.Mirrors (s.history s.breaker.limits s.breaker.epoch)
        (s.breaker.second t) := by
      rw [hlimits, second, hepoch]
      exact ih.2
    have hstep := s.mirrors_step hm ht e
    rw [hlimits, second, hepoch] at hstep
    exact hstep

/-- What is counted at a time, not before the last step, is the tally of the recent history. -/
theorem Reached.totals_eq {limits : Limits} {epoch t now : Instant} {s : Session}
    (h : Reached limits epoch t s) (ht : t ≤ now) :
    s.breaker.window.totals (Instant.secondsBetween epoch now)
      = tally (s.recent limits epoch now) := by
  rw [h.mirrors.2.totals_eq _ (secondsBetween_mono ht), h.mirrors.1]
  rfl

/-- **What is counted, and when a closed breaker opens.** At any time the counts are those of the
outcomes that were recorded while the breaker was closed, since it last became closed or was reset,
in the last seconds. A closed breaker opens with a step exactly if the step records an outcome after
which there are enough of them and one of the rates has reached its limit. -/
theorem metrics_and_opening {limits : Limits} {epoch t now : Instant} {s : Session}
    (h : Reached limits epoch t s) (ht : t ≤ now) :
    ((s.breaker.metrics now).calls = (s.recent limits epoch now).length ∧
      (s.breaker.metrics now).failures = (s.recent limits epoch now).countP (·.failure) ∧
      (s.breaker.metrics now).slow = (s.recent limits epoch now).countP (·.slow)) ∧
    ∀ e, s.admits e → s.breaker.state = .closed →
      ((s.step now e).breaker.state = .opened ↔
        (∃ g success took, e = .record g success took) ∧
        let t := tally ((s.step now e).recent limits epoch now)
        limits.minimumCalls ≤ t.calls ∧
          (limits.failureRate.le t.failureRate ∨ limits.slowRate.le t.slowRate)) := by
  have hsecond : s.breaker.second now = Instant.secondsBetween epoch now := by
    rw [second, h.setup.2]
  constructor
  · simp only [metrics, hsecond, h.totals_eq ht]
    exact ⟨rfl, rfl, rfl⟩
  · intro e he hc
    cases e with
    | record g success took =>
      -- The sum that decides is read after the outcome was counted.
      have htotals := (h.step ht he).totals_eq (le_refl now)
      rw [← hsecond] at htotals
      have heff : (s.step now (.record g success took)).breaker
          = s.breaker.recordClosed now (!success) (s.breaker.limits.slowCall ≤ took) :=
        record_closed now hc ..
      rw [← htotals, heff, recordClosed_opened_iff now hc, h.setup.1]
      simp only [exceeds, h.setup.1, Bool.or_eq_true]
      exact ⟨fun hx => ⟨⟨g, success, took, rfl⟩, hx⟩, fun hx => hx.2⟩
    | acquire =>
      refine iff_of_false ?_ (by simp)
      simp [Session.step, Event.effect, acquire_closed now hc, hc]
    | drop g =>
      refine iff_of_false ?_ (by simp)
      have ht : ¬ (s.breaker.state = .halfOpen ∧ g.issuedIn = .halfOpen) := by simp [hc]
      simp [Session.step, Event.effect, release_other ht, hc]
    | reset => exact iff_of_false (by simp [Session.step, Event.effect, reset]) (by simp)
    | disable => exact iff_of_false (by simp [Session.step, Event.effect, disable]) (by simp)
    | forceOpen => exact iff_of_false (by simp [Session.step, Event.effect, forceOpen]) (by simp)
    | read => exact iff_of_false (by simp [Session.step, Event.effect, hc]) (by simp)

/-- Three failures, one in each of three seconds: a window of two seconds has forgotten the first,
so that the breaker is still closed, and one more failure opens it. -/
theorem metrics_and_opening_three_seconds :
    let limits : Limits := ⟨.finite 50, .finite 50, 1000000, 10000000, 1, 3, 2⟩
    let fail : Event := .record ⟨.closed, 0⟩ false 5
    let events := [(0, .acquire), (0, fail), (1000000, .acquire), (1000000, fail),
      (2000000, .acquire), (2000000, fail), (2000000, .acquire)]
    let s := (Session.start limits 0).run events
    Reached limits 0 2000000 s ∧ (s.breaker.metrics 2000000).calls = 2 ∧
      (s.step 2000000 fail).breaker.state = .opened := by
  intro limits fail events s
  have hs : Reached limits 0 2000000 s := .run events .start (by decide +kernel)
  have h := metrics_and_opening hs (le_refl _)
  have hopens := (h.2 fail (by decide +kernel) (by decide +kernel)).mpr
    ⟨⟨_, _, _, rfl⟩, by decide +kernel⟩
  exact ⟨hs, h.1.1.trans (by decide +kernel), hopens⟩

end HttpGateway.Breaker
