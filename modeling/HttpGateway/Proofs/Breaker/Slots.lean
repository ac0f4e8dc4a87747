/-
The slots of a half-open breaker are never lost.

* **Session.trialsOut** — the trials that are out, of whichever half-open period.
* **Session.changedAt** — when the breaker last went over to another state.
* **Accounted** — what holds in every session that can be reached: a half-open breaker has issued no
  more trials than are out and counted, and an open one has been so since the last change.
* `granted_once_returned` — so a breaker is saturated only while a trial is out, and when no permit
  is out any more the next call after the wait is permitted.

A trial of an earlier period may be recorded or dropped in a later one, and then fills or frees a
slot there that was issued to another. Counting all trials that are out, and not only those of the
period, makes up for that: whatever uses up a trial takes it off the one side, and puts one to the
counted outcomes or takes one off the issued slots.
-/
import HttpGateway.Proofs.Breaker.Trials
import HttpGateway.Proofs.Breaker.Waiting

namespace HttpGateway.Breaker

/-- Whether a permit is that of a trial. -/
def Grant.isTrial (g : Grant) : Bool := g.issuedIn = .halfOpen

/-- Whether a step leads to another state. -/
def Entry.changesState (x : Entry) : Bool := x.before.state ≠ x.after.state

namespace Session

/-- How many trials are out, of this half-open period or of earlier ones. -/
def trialsOut (s : Session) : Nat := s.permits.countP Grant.isTrial

/-- When the breaker last went over to another state. -/
def changedAt (s : Session) (epoch : Instant) : Instant :=
  ((s.log.find? Entry.changesState).map (·.time)).getD epoch

end Session

/-- Nothing changes an open breaker and leaves it open. -/
theorem effect_of_stays_open {b : Breaker} {e : Event} {now : Instant} (h : b.state = .opened)
    (h' : (e.effect b now).state = .opened) : e.effect b now = b := by
  cases e with
  | acquire =>
    rcases acquire_cases b now with hb | ⟨-, hb⟩ | ⟨hs, -⟩
    · exact hb
    · rw [Event.effect, hb] at h'
      simp at h'
    · simp [h] at hs
  | record g success took =>
    exact record_uncounted now (by simp [h]) (fun ht => by simp [h] at ht) ..
  | drop g => exact release_other fun ht => by simp [h] at ht
  | reset => simp [Event.effect, reset] at h'
  | disable => simp [Event.effect, disable] at h'
  | forceOpen => simp [Event.effect, forceOpen] at h'
  | read => rfl

namespace Session

variable {s : Session} {epoch now : Instant} {e : Event}

theorem changedAt_of_changes (h : s.breaker.state ≠ (e.effect s.breaker now).state) :
    (s.step now e).changedAt epoch = now := by
  have hx : (s.entry now e).changesState = true := decide_eq_true h
  rw [changedAt, step, List.find?_cons_of_pos hx]
  rfl

theorem changedAt_of_same (h : s.breaker.state = (e.effect s.breaker now).state) :
    (s.step now e).changedAt epoch = s.changedAt epoch := by
  have hx : ¬ (s.entry now e).changesState = true := fun hx => of_decide_eq_true hx h
  rw [changedAt, step, List.find?_cons_of_neg hx]
  rfl

theorem trialsOut_of_granted {state : State} (h : (s.breaker.acquire now).1 = .ok state) :
    (s.step now .acquire).trialsOut = s.trialsOut + if state = .halfOpen then 1 else 0 := by
  rw [trialsOut, permits_of_granted h, List.countP_cons, trialsOut]
  simp [Grant.isTrial]

/-- What holds of the trials that were issued, and of the time since which the breaker is open. -/
structure Accounted (s : Session) (epoch : Instant) : Prop where
  issued_le : s.breaker.state = .halfOpen →
    s.breaker.issued ≤ s.trialsOut + s.breaker.trials.calls
  opened : s.breaker.state = .opened → OpenSince s.breaker (s.changedAt epoch)

/-- Issuing a trial puts one out; recording one counts it; dropping one takes a slot back. -/
theorem issued_le_step (hs : s.breaker.state = .halfOpen) (he : s.admits e = true)
    (h' : (e.effect s.breaker now).state = .halfOpen)
    (hle : s.breaker.issued ≤ s.trialsOut + s.breaker.trials.calls) :
    (s.step now e).breaker.issued
      ≤ (s.step now e).trialsOut + (s.step now e).breaker.trials.calls := by
  have hhand : e.byHand = false := Bool.eq_false_iff.mpr fun hb => state_of_byHand now hb h'
  by_cases hp : e.permit?.any (·.issuedIn = .halfOpen) = true
  · cases e with
    | record g success took =>
      have ht : g.issuedIn = .halfOpen := of_decide_eq_true hp
      have heff : (s.step now (.record g success took)).breaker = _ :=
        breaker_of_record hs ht success took
      have hlt : ¬ s.breaker.limits.trials ≤ s.breaker.trials.calls + 1 := by
        intro hlast
        rw [show (Event.record g success took).effect s.breaker now = _ from heff,
          recordTrial_state now hs, if_pos hlast] at h'
        split at h' <;> simp at h'
      have hcalls : (s.step now (.record g success took)).breaker.trials.calls
          = s.breaker.trials.calls + 1 := by
        rw [heff, recordTrial_eq, if_neg hlt]
        rfl
      have hissued : (s.step now (.record g success took)).breaker.issued = s.breaker.issued := by
        rw [heff, recordTrial_eq, if_neg hlt]
      have hout : (s.step now (.record g success took)).trialsOut + 1 = s.trialsOut :=
        countP_erase_counted (of_decide_eq_true he) (decide_eq_true ht)
      omega
    | drop g =>
      have ht : g.issuedIn = .halfOpen := of_decide_eq_true hp
      have heff : (s.step now (.drop g)).breaker
          = { s.breaker with issued := s.breaker.issued - 1 } := by
        rw [step, Event.effect, ht, release_halfOpen hs]
      have hout : (s.step now (.drop g)).trialsOut + 1 = s.trialsOut :=
        countP_erase_counted (of_decide_eq_true he) (decide_eq_true ht)
      rw [heff]
      show s.breaker.issued - 1 ≤ _ + s.breaker.trials.calls
      omega
    | _ => exact absurd hp (by simp [Event.permit?])
  · rcases effect_not_on_trial now hs hhand hp with ⟨heff, hr⟩ | ⟨rfl, -, hb⟩
    · have hout : (s.step now e).trialsOut = s.trialsOut := by
        refine countP_permits_step (fun g hg htrial => hp ?_) hr
        rw [hg]
        exact htrial
      rw [hout, show (s.step now e).breaker = s.breaker from heff]
      exact hle
    · have hout := trialsOut_of_granted (s := s) (congrArg Prod.fst hb)
      rw [if_pos rfl] at hout
      rw [hout, show (s.step now .acquire).breaker = _ from congrArg Prod.snd hb]
      show s.breaker.issued + 1 ≤ s.trialsOut + 1 + s.breaker.trials.calls
      omega

theorem Accounted.step (h : s.Accounted epoch) (he : s.admits e = true) :
    (s.step now e).Accounted epoch where
  issued_le h' := by
    by_cases hs : s.breaker.state = .halfOpen
    · exact issued_le_step hs he h' (h.issued_le hs)
    · -- The call that makes the breaker half-open has the first trial.
      obtain ⟨rfl, hgrant, hissued, -⟩ := becomes_halfOpen now hs h'
      have hout := trialsOut_of_granted hgrant
      rw [if_pos rfl] at hout
      show (Event.acquire.effect s.breaker now).issued ≤ _
      omega
  opened h' := by
    by_cases hs : s.breaker.state = .opened
    · have hsame : (s.step now e).breaker = s.breaker := effect_of_stays_open hs h'
      rw [hsame, changedAt_of_same (hs.trans h'.symm)]
      exact h.opened hs
    · rw [changedAt_of_changes fun heq => hs (heq.trans h')]
      exact openSince_of_opens hs h'

end Session

theorem Reached.accounted {limits : Limits} {epoch t : Instant} {s : Session}
    (h : Reached limits epoch t s) : s.Accounted epoch := by
  induction h with
  | start => exact
    { issued_le := by simp [Session.start, create]
      opened := by simp [Session.start, create] }
  | step _ _ he ih => exact ih.step he

/-- **No slot is lost.** However a breaker came to where it is, by calls, outcomes and permits that
were given up, in whatever half-open period, and by what was done by hand: it rejects a call as
saturated only while a trial is out, and if no permit is out and it is not held open by hand, a call
that is asked for after the wait since the last change of its state is permitted. -/
theorem granted_once_returned (settings : Settings.Resilience) {epoch t : Instant} {s : Session}
    (h : Reached (.ofSettings settings) epoch t s) :
    (∀ now, (s.breaker.acquire now).1 = .error .saturated →
      ∃ g ∈ s.permits, g.issuedIn = .halfOpen) ∧
    (s.permits = [] → s.breaker.state ≠ .forcedOpen → ∀ now,
      s.changedAt epoch + .ofMillis settings.waitDurationInOpenStateMs ≤ now →
        ∃ state, (s.breaker.acquire now).1 = .ok state) := by
  have hn : 0 < (Limits.ofSettings settings).trials := Nat.le_max_right ..
  have hlimits := h.setup.1
  have hacc := h.accounted
  -- Fewer trials are counted than decide, so one that is missing must be out.
  have hroom : s.breaker.state = .halfOpen → s.breaker.limits.trials ≤ s.breaker.issued →
      0 < s.trialsOut := by
    intro hs hfull
    have hcounted := (h.kept hn).counted hs
    have hcalls := hcounted.calls_eq
    have hfew := hcounted.few
    have hle := hacc.issued_le hs
    rw [hlimits] at hfull
    omega
  constructor
  · intro now hsat
    cases hs : s.breaker.state with
    | halfOpen =>
      rw [acquire_halfOpen now hs] at hsat
      split at hsat
      · next hfull =>
        obtain ⟨g, hg, ht⟩ := List.countP_pos_iff.mp (hroom hs hfull)
        exact ⟨g, hg, of_decide_eq_true ht⟩
      · simp at hsat
    | opened =>
      rw [acquire_opened now hs] at hsat
      split at hsat <;> simp at hsat
    | closed => simp [acquire_closed now hs] at hsat
    | disabled => simp [acquire_disabled now hs] at hsat
    | forcedOpen => simp [acquire_forcedOpen now hs] at hsat
  · intro hnone hforced now hwait
    cases hs : s.breaker.state with
    | halfOpen =>
      have hfull : ¬ s.breaker.limits.trials ≤ s.breaker.issued := by
        intro hfull
        have hpos := hroom hs hfull
        simp [Session.trialsOut, hnone] at hpos
      exact ⟨.halfOpen, by rw [acquire_halfOpen now hs, if_neg hfull]⟩
    | opened =>
      refine ⟨.halfOpen, ?_⟩
      rw [(hacc.opened hs).acquire_late (by rw [hlimits]; exact hwait)]
    | closed => exact ⟨.closed, by rw [acquire_closed now hs]⟩
    | disabled => exact ⟨.disabled, by rw [acquire_disabled now hs]⟩
    | forcedOpen => exact absurd hs hforced

/-- One trial is allowed. It is still out when the breaker is held open by hand and reset, and is
dropped in the next half-open period, so that a second trial is issued in that period and another
call is rejected. Both are given up then, and the breaker, still half-open, is free again. -/
theorem granted_once_returned_earlier_trial :
    let settings : Settings.Resilience :=
      { waitDurationInOpenStateMs := 1, permittedCallsInHalfOpenState := 1
        minimumNumberOfCalls := 1 }
    let limits := Limits.ofSettings settings
    let trial (period : Nat) : Grant := ⟨.halfOpen, period⟩
    let busy := [(0, .acquire), (0, .record ⟨.closed, 0⟩ false 5), (1000, .acquire),
      (1001, .forceOpen), (1001, .reset), (1002, .acquire), (1003, .record ⟨.closed, 1⟩ false 5),
      (2003, .acquire), (2004, .drop (trial 1)), (2005, .acquire)]
    let events := busy ++ [(2006, .acquire), (2007, .drop (trial 2)), (2008, .drop (trial 2))]
    let s := (Session.start limits 0).run events
    Reached limits 0 2008 s ∧
      (((Session.start limits 0).run busy).breaker.acquire 2006).1 = .error .saturated ∧
      s.permits = [] ∧ s.breaker.state = .halfOpen ∧ s.changedAt 0 = 2003 ∧
      ∃ state, (s.breaker.acquire 3003).1 = .ok state := by
  intro settings limits trial busy events s
  have hs : Reached limits 0 2008 s := .run events .start (by decide +kernel)
  have hnone : s.permits = [] := by decide +kernel
  have hstate : s.breaker.state = .halfOpen := by decide +kernel
  have hchanged : s.changedAt 0 = 2003 := by decide +kernel
  have hgranted := (granted_once_returned settings hs).2 hnone (by rw [hstate]; decide) 3003
    (by rw [hchanged]; decide)
  exact ⟨hs, by decide +kernel, hnone, hstate, hchanged, hgranted⟩

end HttpGateway.Breaker
