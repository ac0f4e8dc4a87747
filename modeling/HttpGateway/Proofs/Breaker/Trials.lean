/-
The trials of a half-open period.

* **Session.outstanding**, **Session.trials** — the permits of the present half-open period that are
  out, and the outcomes that were counted in it, both read off the run.
* **Entry.isLate**, **Entry.intrudes** — a trial of an earlier period that is recorded or dropped
  in a later one, and one that changes the breaker there.
* **Reached.kept** — what holds in every session that can be reached, done by hand or not: the
  number of trials that the breaker has issued balances those that are out and those that are done,
  unless an earlier trial intruded.
-/
import HttpGateway.Proofs.Breaker.Session
import Mathlib.Data.List.Count

namespace HttpGateway.Breaker

/-- Whether a step records or drops a trial while the breaker is half-open. -/
def Entry.onTrial (x : Entry) : Bool :=
  x.before.state = .halfOpen && x.event.permit?.any (·.issuedIn = .halfOpen)

/-- Whether a step records or drops a trial in a half-open period that is not its own. -/
def Entry.isLate (x : Entry) : Bool :=
  x.onTrial && x.event.permit?.any (·.period ≠ x.period)

/-- Whether such a step makes a difference: an outcome always does, a trial that is dropped only if
there is one to be taken back. -/
def Entry.intrudes (x : Entry) : Bool :=
  x.isLate && match x.event with
    | .record .. => true
    | _ => 0 < x.before.issued

namespace Session

/-- Whether a permit was issued in the present half-open period. -/
def isCurrent (s : Session) (g : Grant) : Bool := g.issuedIn = .halfOpen && g.period = s.period

/-- How many permits of the present half-open period are out. -/
def outstanding (s : Session) : Nat := s.permits.countP s.isCurrent

/-- The outcomes that were counted in the present half-open period, or in the last one. -/
def trials (s : Session) (limits : Limits) (epoch : Instant) : List Outcome :=
  (s.log.filter fun x => x.period = s.period && x.onTrial).filterMap (·.outcome? limits epoch)

end Session

/-! ### What one event does to a half-open breaker -/

section

variable {b : Breaker} (now : Instant)

/-- A breaker becomes half-open with a granted permit, the first trial. -/
theorem becomes_halfOpen {e : Event} (h : b.state ≠ .halfOpen)
    (h' : (e.effect b now).state = .halfOpen) :
    e = .acquire ∧ (b.acquire now).1 = .ok .halfOpen ∧ (e.effect b now).issued = 1 ∧
      (e.effect b now).trials = 0 := by
  cases e with
  | acquire =>
    rcases acquire_cases b now with hb | ⟨-, hb⟩ | ⟨hs, -, -⟩
    · rw [Event.effect, hb] at h'
      exact absurd h' h
    · rw [Event.effect, hb]
      exact ⟨rfl, rfl, rfl, enter_trials now h⟩
    · exact absurd hs h
  | record g success took =>
    by_cases hc : b.state = .closed
    · simp only [Event.effect, record_closed now hc, recordClosed] at h'
      split at h' <;> simp_all
    · rw [Event.effect, record_uncounted now hc fun ht => h ht.1] at h'
      exact absurd h' h
  | drop g =>
    rw [Event.effect, release_other fun ht => h ht.1] at h'
    exact absurd h' h
  | reset => simp [Event.effect, reset] at h'
  | disable => simp [Event.effect, disable] at h'
  | forceOpen => simp [Event.effect, forceOpen] at h'
  | read => exact absurd h' h

/-- The outcome of a trial is counted; the last one decides. -/
theorem recordTrial_eq (b : Breaker) (failure slow : Bool) :
    b.recordTrial now failure slow =
      let after := { b with trials := b.trials.count failure slow }
      if b.limits.trials ≤ b.trials.calls + 1 then
        after.enter (if b.exceeds after.trials then .opened else .closed) now
      else after := rfl

theorem recordTrial_state (h : b.state = .halfOpen) (failure slow : Bool) :
    (b.recordTrial now failure slow).state =
      if b.limits.trials ≤ b.trials.calls + 1 then
        (if b.exceeds (b.trials.count failure slow) then .opened else .closed)
      else .halfOpen := by
  rw [recordTrial_eq]
  split
  · exact enter_state ..
  · exact h

/-- An event that is neither done by hand nor on a trial leaves a half-open breaker alone, or issues
one more trial. -/
theorem effect_not_on_trial {e : Event} (h : b.state = .halfOpen) (he : e.byHand = false)
    (hp : ¬ e.permit?.any (·.issuedIn = .halfOpen) = true) :
    e.effect b now = b ∧ (e = .acquire → ∃ r, (b.acquire now).1 = .error r) ∨
    e = .acquire ∧ b.issued < b.limits.trials ∧
      b.acquire now = (.ok .halfOpen, { b with issued := b.issued + 1 }) := by
  cases e with
  | acquire =>
    rw [Event.effect, acquire_halfOpen now h]
    by_cases hn : b.limits.trials ≤ b.issued
    · rw [if_pos hn]
      exact .inl ⟨rfl, fun _ => ⟨_, rfl⟩⟩
    · rw [if_neg hn]
      exact .inr ⟨rfl, by omega, rfl⟩
  | record g success took =>
    have ht : ¬ (b.state = .halfOpen ∧ g.issuedIn = .halfOpen) := by
      simpa [Event.permit?, h] using hp
    exact .inl ⟨record_uncounted now (by simp [h]) ht .., by simp⟩
  | drop g =>
    have ht : ¬ (b.state = .halfOpen ∧ g.issuedIn = .halfOpen) := by
      simpa [Event.permit?, h] using hp
    exact .inl ⟨release_other ht, by simp⟩
  | read => exact .inl ⟨rfl, by simp⟩
  | _ => simp [Event.byHand] at he

theorem state_of_byHand {e : Event} (he : e.byHand = true) :
    (e.effect b now).state ≠ .halfOpen := by
  cases e with
  | reset => simp [Event.effect, reset]
  | disable => simp [Event.effect, disable]
  | forceOpen => simp [Event.effect, forceOpen]
  | _ => simp [Event.byHand] at he

end

/-! ### What one event does to the session -/

namespace Session

variable {s : Session} {limits : Limits} {epoch now : Instant} {e : Event}

theorem period_of_begins (h : s.breaker.state ≠ .halfOpen)
    (h' : (e.effect s.breaker now).state = .halfOpen) : (s.step now e).period = s.period + 1 :=
  if_pos ⟨h, h'⟩

theorem period_of_goes_on (h : s.breaker.state = .halfOpen) (now : Instant) (e : Event) :
    (s.step now e).period = s.period :=
  if_neg fun hc => hc.1 h

theorem period_le (s : Session) (now : Instant) (e : Event) : s.period ≤ (s.step now e).period := by
  simp only [step, periodAfter]
  split <;> omega

/-- A permit that is out was out before, or has just been issued. -/
theorem mem_permits_step {g : Grant} (h : g ∈ (s.step now e).permits) :
    g ∈ s.permits ∨
      g.issuedIn = (s.step now e).breaker.state ∧ g.period = (s.step now e).period := by
  cases e with
  | acquire =>
    simp only [step, permitsAfter] at h
    split at h
    · next state hgrant =>
      rcases List.mem_cons.mp h with rfl | h
      · exact .inr ⟨acquire_granted now hgrant, rfl⟩
      · exact .inl h
    · exact .inl h
  | record g' success took => exact .inl (List.mem_of_mem_erase h)
  | drop g' => exact .inl (List.mem_of_mem_erase h)
  | _ => exact .inl h

theorem permits_of_granted {state : State} (h : (s.breaker.acquire now).1 = .ok state) :
    (s.step now .acquire).permits = ⟨state, (s.step now .acquire).period⟩ :: s.permits := by
  simp only [step, permitsAfter, h]

theorem permits_of_refused {r : Rejection} (h : (s.breaker.acquire now).1 = .error r) :
    (s.step now .acquire).permits = s.permits := by
  simp only [step, permitsAfter, h]

theorem trials_of_onTrial (hp : (s.step now e).period = s.period)
    (h : (s.entry now e).onTrial = true) :
    (s.step now e).trials limits epoch
      = ((s.entry now e).outcome? limits epoch).toList ++ s.trials limits epoch := by
  have hx : (decide ((s.entry now e).period = s.period) && (s.entry now e).onTrial) = true :=
    Bool.and_eq_true_iff.mpr ⟨decide_eq_true rfl, h⟩
  rw [trials, hp, step, List.filter_cons, if_pos hx, List.filterMap_cons]
  cases (s.entry now e).outcome? limits epoch <;> rfl

theorem trials_of_other (hp : (s.step now e).period = s.period)
    (h : ¬ (s.entry now e).onTrial = true) :
    (s.step now e).trials limits epoch = s.trials limits epoch := by
  have hx : ¬ (decide ((s.entry now e).period = s.period) && (s.entry now e).onTrial) = true := by
    simp [h]
  rw [trials, hp, step, List.filter_cons, if_neg hx]
  rfl

theorem trials_of_no_trial (hs : s.breaker.state = .halfOpen)
    (hp : ¬ e.permit?.any (·.issuedIn = .halfOpen) = true) :
    (s.step now e).trials limits epoch = s.trials limits epoch :=
  trials_of_other (period_of_goes_on hs ..) fun ht => hp (Bool.and_eq_true_iff.mp ht).2

/-- A period that has just begun has no outcomes. -/
theorem trials_of_begins (hp : (s.step now e).period = s.period + 1)
    (hlog : ∀ x ∈ s.log, x.period ≤ s.period) : (s.step now e).trials limits epoch = [] := by
  have hnil : (s.step now e).log.filter
      (fun x => decide (x.period = (s.step now e).period) && x.onTrial) = [] := by
    refine List.filter_eq_nil_iff.mpr fun x hx => ?_
    have hle : x.period ≤ s.period := by
      rcases List.mem_cons.mp hx with rfl | hx
      · exact le_refl _
      · exact hlog x hx
    simp [hp, show x.period ≠ s.period + 1 by omega]
  rw [trials, hnil, List.filterMap_nil]

theorem isCurrent_congr {s' : Session} (hp : s'.period = s.period) :
    s'.isCurrent = s.isCurrent := by
  funext g
  simp [isCurrent, hp]

/-- Of the permits of a kind that are out, one that is used up is one less. -/
theorem countP_erase_counted {p : Grant → Bool} {g : Grant} (hg : g ∈ s.permits)
    (hc : p g = true) : (s.permits.erase g).countP p + 1 = s.permits.countP p := by
  have hpos : 0 < s.permits.countP p := List.countP_pos_iff.mpr ⟨g, hg, hc⟩
  rw [List.countP_erase, if_pos (by simp [hg, hc])]
  omega

theorem countP_erase_uncounted {p : Grant → Bool} {g : Grant} (hc : ¬ p g = true) :
    (s.permits.erase g).countP p = s.permits.countP p := by
  rw [List.countP_erase, if_neg (by simp [hc]), Nat.sub_zero]

/-- An event without a permit of a kind, for which no permit is issued, leaves as many of that kind
out. -/
theorem countP_permits_step {p : Grant → Bool} (hp : ∀ g, e.permit? = some g → ¬ p g = true)
    (hr : e = .acquire → ∃ r, (s.breaker.acquire now).1 = .error r) :
    (s.step now e).permits.countP p = s.permits.countP p := by
  cases e with
  | acquire =>
    obtain ⟨r, hr⟩ := hr rfl
    rw [permits_of_refused hr]
  | record g success took => exact countP_erase_uncounted (hp g rfl)
  | drop g => exact countP_erase_uncounted (hp g rfl)
  | _ => rfl

/-- A current trial that is recorded or dropped is one less that is out. -/
theorem countP_erase_current {g : Grant} (hg : g ∈ s.permits) (hc : s.isCurrent g = true) :
    (s.permits.erase g).countP s.isCurrent + 1 = s.outstanding :=
  countP_erase_counted hg hc

theorem countP_erase_other {g : Grant} (hc : ¬ s.isCurrent g = true) :
    (s.permits.erase g).countP s.isCurrent = s.outstanding :=
  countP_erase_uncounted hc

end Session

/-! ### The balance of a half-open period -/

/-- What a half-open breaker has counted: its outcomes are those of the period, there are too few of
them to decide, and the issued trials balance those that are out and those that are done, unless
an earlier trial has intruded into the period. -/
structure Session.Counted (s : Session) (limits : Limits) (epoch : Instant) : Prop where
  trials_eq : s.breaker.trials = tally (s.trials limits epoch)
  few : (s.trials limits epoch).length < limits.trials
  issued_le : s.breaker.issued ≤ limits.trials
  balance : (∀ x ∈ s.log, x.period = s.period → ¬ x.intrudes = true) →
    s.outstanding + (s.trials limits epoch).length = s.breaker.issued

namespace Session

variable {s : Session} {limits : Limits} {epoch now : Instant} {e : Event}

theorem counted_of_begins (hn : 0 < limits.trials) (hpermit : ∀ g ∈ s.permits, g.period ≤ s.period)
    (hlog : ∀ x ∈ s.log, x.period ≤ s.period) (h : s.breaker.state ≠ .halfOpen)
    (h' : (e.effect s.breaker now).state = .halfOpen) : (s.step now e).Counted limits epoch := by
  obtain ⟨rfl, hgrant, hissued, htrials⟩ := becomes_halfOpen now h h'
  have hp := period_of_begins h h'
  have hnil : (s.step now .acquire).trials limits epoch = [] := trials_of_begins hp hlog
  have hout : (s.step now .acquire).outstanding = 1 := by
    have hold : s.permits.countP (s.step now .acquire).isCurrent = 0 := by
      -- All other permits are of earlier periods.
      refine List.countP_eq_zero.mpr fun g hg => ?_
      have := hpermit g hg
      simp [isCurrent, hp, show g.period ≠ s.period + 1 by omega]
    rw [outstanding, permits_of_granted hgrant, List.countP_cons, hold]
    simp [isCurrent]
  refine ⟨?_, ?_, ?_, fun _ => ?_⟩
  · rw [hnil]
    exact htrials
  · rw [hnil]
    exact hn
  · exact hissued.le.trans hn
  · rw [hnil, hout]
    exact hissued.symm

/-- What did not intrude until after an event had not intruded before it. -/
theorem Counted.balance_before (hc : s.Counted limits epoch)
    (hp : (s.step now e).period = s.period)
    (hx : ∀ x ∈ (s.step now e).log, x.period = (s.step now e).period → ¬ x.intrudes = true) :
    s.outstanding + (s.trials limits epoch).length = s.breaker.issued :=
  hc.balance fun x hmem hxp => hx x (List.mem_cons_of_mem _ hmem) (hxp.trans hp.symm)

theorem Counted.calls_eq (hc : s.Counted limits epoch) :
    s.breaker.trials.calls = (s.trials limits epoch).length := by
  rw [hc.trials_eq]
  rfl

/-- An event that does not concern the trials of the period keeps what was counted. -/
theorem Counted.same (hc : s.Counted limits epoch) (hs : s.breaker.state = .halfOpen)
    (heff : e.effect s.breaker now = s.breaker)
    (hout : (s.step now e).permits.countP s.isCurrent = s.outstanding)
    (htrials : (s.step now e).trials limits epoch = s.trials limits epoch) :
    (s.step now e).Counted limits epoch := by
  have hb : (s.step now e).breaker = s.breaker := heff
  have hp := period_of_goes_on hs now e
  refine ⟨?_, ?_, ?_, fun hx => ?_⟩
  · rw [hb, htrials, hc.trials_eq]
  · rw [htrials]
    exact hc.few
  · rw [hb]
    exact hc.issued_le
  · rw [hb, htrials, outstanding, isCurrent_congr hp, hout]
    exact hc.balance_before hp hx

theorem Counted.acquire (hc : s.Counted limits epoch) (hs : s.breaker.state = .halfOpen)
    (hl : s.breaker.limits = limits) (hn : s.breaker.issued < s.breaker.limits.trials)
    (hb : s.breaker.acquire now
      = (.ok .halfOpen, { s.breaker with issued := s.breaker.issued + 1 })) :
    (s.step now .acquire).Counted limits epoch := by
  have heff : (s.step now .acquire).breaker = { s.breaker with issued := s.breaker.issued + 1 } :=
    congrArg Prod.snd hb
  have hp := period_of_goes_on hs now .acquire
  have htrials : (s.step now .acquire).trials limits epoch = s.trials limits epoch :=
    trials_of_other hp (by simp [Entry.onTrial, entry, Event.permit?])
  have hout : (s.step now .acquire).outstanding = s.outstanding + 1 := by
    rw [outstanding, permits_of_granted (congrArg Prod.fst hb), List.countP_cons,
      if_pos (by simp [isCurrent]), isCurrent_congr hp, outstanding]
  refine ⟨?_, ?_, ?_, fun hx => ?_⟩
  · rw [heff, htrials]
    exact hc.trials_eq
  · rw [htrials]
    exact hc.few
  · rw [heff, ← hl]
    exact hn
  · rw [hout, htrials, heff]
    have hbal := hc.balance_before hp hx
    show s.outstanding + 1 + _ = s.breaker.issued + 1
    omega

theorem onTrial_iff : (s.entry now e).onTrial = true ↔
    s.breaker.state = .halfOpen ∧ ∃ g, e.permit? = some g ∧ g.issuedIn = .halfOpen := by
  rw [Entry.onTrial, Bool.and_eq_true, decide_eq_true_eq, Option.any_eq_true]
  simp only [decide_eq_true_eq]
  exact Iff.rfl

theorem isLate_iff : (s.entry now e).isLate = true ↔
    s.breaker.state = .halfOpen ∧
      ∃ g, e.permit? = some g ∧ g.issuedIn = .halfOpen ∧ g.period ≠ s.period := by
  rw [Entry.isLate, Bool.and_eq_true, onTrial_iff, Option.any_eq_true]
  simp only [decide_eq_true_eq]
  constructor
  · rintro ⟨⟨hs, g, hg, ht⟩, g', hg', hp⟩
    obtain rfl : g = g' := Option.some.inj (hg.symm.trans hg')
    exact ⟨hs, g, hg, ht, hp⟩
  · rintro ⟨hs, g, hg, ht, hp⟩
    exact ⟨⟨hs, g, hg, ht⟩, g, hg, hp⟩

/-- A trial that is not of the present period is late. -/
theorem isLate_of_not_current {g : Grant} (hs : s.breaker.state = .halfOpen)
    (hg : e.permit? = some g) (ht : g.issuedIn = .halfOpen) (hcur : ¬ s.isCurrent g = true) :
    (s.entry now e).isLate = true :=
  isLate_iff.mpr ⟨hs, g, hg, ht, fun hp => hcur (by simp [isCurrent, ht, hp])⟩

theorem intrudes_of_record {g : Grant} {success : Bool} {took : Instant}
    (h : (s.entry now (.record g success took)).isLate = true) :
    (s.entry now (.record g success took)).intrudes = true :=
  Bool.and_eq_true_iff.mpr ⟨h, rfl⟩

theorem intrudes_of_drop {g : Grant} (h : (s.entry now (.drop g)).isLate = true) :
    (s.entry now (.drop g)).intrudes = true ↔ 0 < s.breaker.issued := by
  rw [Entry.intrudes, h, Bool.true_and]
  exact decide_eq_true_iff

/-- The outcome of a trial that is told to a half-open breaker. -/
theorem breaker_of_record {g : Grant} (hs : s.breaker.state = .halfOpen)
    (ht : g.issuedIn = .halfOpen) (success : Bool) (took : Instant) :
    (s.step now (.record g success took)).breaker
      = s.breaker.recordTrial now (!success) (s.breaker.limits.slowCall ≤ took) := by
  rw [step, Event.effect, ht, record_halfOpen now hs]

theorem trials_of_record {g : Grant} {success : Bool} {took : Instant}
    (h : s.breaker.state = .halfOpen) (ht : g.issuedIn = .halfOpen) :
    (s.step now (.record g success took)).trials limits epoch
      = ⟨Instant.secondsBetween epoch now, !success, limits.slowCall ≤ took⟩
        :: s.trials limits epoch :=
  trials_of_onTrial (period_of_goes_on h ..) (onTrial_iff.mpr ⟨h, g, rfl, ht⟩)

/-- The outcome of one more trial, which does not decide yet, is counted. -/
theorem Counted.record (hc : s.Counted limits epoch) (hs : s.breaker.state = .halfOpen)
    (hl : s.breaker.limits = limits) {g : Grant} (hg : g ∈ s.permits) (ht : g.issuedIn = .halfOpen)
    (success : Bool) (took : Instant)
    (h' : ((s.step now (.record g success took)).breaker).state = .halfOpen) :
    (s.step now (.record g success took)).Counted limits epoch := by
  subst hl
  have heff : (s.step now (.record g success took)).breaker = _ :=
    breaker_of_record hs ht success took
  rw [heff, recordTrial_state now hs] at h'
  -- The last trial would decide.
  have hlt : ¬ s.breaker.limits.trials ≤ s.breaker.trials.calls + 1 := by
    intro hle
    rw [if_pos hle] at h'
    split at h' <;> simp at h'
  rw [recordTrial_eq, if_neg hlt] at heff
  have hp := period_of_goes_on hs now (.record g success took)
  have htrials : (s.step now (.record g success took)).trials s.breaker.limits epoch
      = ⟨Instant.secondsBetween epoch now, !success, s.breaker.limits.slowCall ≤ took⟩
        :: s.trials s.breaker.limits epoch := trials_of_record hs ht
  have hcalls := hc.calls_eq
  refine ⟨?_, ?_, ?_, fun hx => ?_⟩
  · rw [heff, htrials, tally_cons, ← hc.trials_eq]
  · rw [htrials, List.length_cons]
    omega
  · rw [heff]
    exact hc.issued_le
  · -- Not being an intrusion, this is the outcome of a trial of the present period.
    have hcur : s.isCurrent g = true := by
      by_contra hcur
      have hlate : (s.entry now (.record g success took)).isLate = true :=
        isLate_of_not_current hs rfl ht hcur
      exact hx _ List.mem_cons_self hp.symm (intrudes_of_record hlate)
    have hbal := hc.balance_before hp hx
    have hout : (s.step now (.record g success took)).outstanding + 1 = s.outstanding := by
      rw [outstanding, isCurrent_congr hp]
      exact countP_erase_current hg hcur
    rw [htrials, List.length_cons, heff]
    show _ = s.breaker.issued
    omega

/-- A trial that is dropped may be issued again. -/
theorem Counted.drop (hc : s.Counted limits epoch) (hs : s.breaker.state = .halfOpen) {g : Grant}
    (hg : g ∈ s.permits) (ht : g.issuedIn = .halfOpen) :
    (s.step now (.drop g)).Counted limits epoch := by
  have heff : (s.step now (.drop g)).breaker
      = { s.breaker with issued := s.breaker.issued - 1 } := by
    rw [step, Event.effect, ht, release_halfOpen hs]
  have hp := period_of_goes_on hs now (.drop g)
  have htrials : (s.step now (.drop g)).trials limits epoch = s.trials limits epoch :=
    trials_of_onTrial hp (onTrial_iff.mpr ⟨hs, g, rfl, ht⟩)
  refine ⟨?_, ?_, ?_, fun hx => ?_⟩
  · rw [heff, htrials]
    exact hc.trials_eq
  · rw [htrials]
    exact hc.few
  · rw [heff]
    exact (Nat.sub_le _ _).trans hc.issued_le
  · have hbal := hc.balance_before hp hx
    rw [htrials, heff, outstanding, isCurrent_congr hp]
    show (s.permits.erase g).countP s.isCurrent + _ = s.breaker.issued - 1
    by_cases hcur : s.isCurrent g = true
    · have := countP_erase_current hg hcur
      omega
    · -- An earlier trial that does not intrude finds no trial issued.
      have hlate : (s.entry now (.drop g)).isLate = true := isLate_of_not_current hs rfl ht hcur
      have hnone : ¬ 0 < s.breaker.issued := fun hpos =>
        hx _ List.mem_cons_self hp.symm ((intrudes_of_drop hlate).mpr hpos)
      rw [countP_erase_other hcur]
      omega

/-- What holds in every session: periods only lie behind, the log tells what was done, and a
half-open breaker has counted its period. -/
structure Kept (s : Session) (limits : Limits) (epoch : Instant) : Prop where
  permits_le : ∀ g ∈ s.permits, g.period ≤ s.period
  log_le : ∀ x ∈ s.log, x.period ≤ s.period
  log_effect : ∀ x ∈ s.log, x.after = x.event.effect x.before x.time
  counted : s.breaker.state = .halfOpen → s.Counted limits epoch

/-- An event without a trial, for which no permit is issued, leaves as many trials out. -/
theorem outstanding_of_other (hp : ¬ e.permit?.any (·.issuedIn = .halfOpen) = true)
    (hr : e = .acquire → ∃ r, (s.breaker.acquire now).1 = .error r) :
    (s.step now e).permits.countP s.isCurrent = s.outstanding := by
  refine countP_permits_step (fun g hg hcur => ?_) hr
  rw [hg] at hp
  simp only [isCurrent, Bool.and_eq_true, decide_eq_true_eq] at hcur
  exact hp (decide_eq_true hcur.1)

/-- One event keeps the count of a period that goes on. -/
theorem Counted.step (hc : s.Counted limits epoch) (hs : s.breaker.state = .halfOpen)
    (hl : s.breaker.limits = limits) (he : s.admits e = true)
    (h' : (e.effect s.breaker now).state = .halfOpen) : (s.step now e).Counted limits epoch := by
  -- Nothing that is done by hand leaves the breaker half-open.
  have hhand : e.byHand = false := Bool.eq_false_iff.mpr fun hb => state_of_byHand now hb h'
  by_cases hp : e.permit?.any (·.issuedIn = .halfOpen) = true
  · cases e with
    | record g success took =>
      exact hc.record hs hl (of_decide_eq_true he) (of_decide_eq_true hp) success took h'
    | drop g => exact hc.drop hs (of_decide_eq_true he) (of_decide_eq_true hp)
    | _ => exact absurd hp (by simp [Event.permit?])
  · rcases effect_not_on_trial now hs hhand hp with ⟨heff, hr⟩ | ⟨rfl, hn, hb⟩
    · exact hc.same hs heff (outstanding_of_other hp hr) (trials_of_no_trial hs hp)
    · exact hc.acquire hs hl hn hb

theorem Kept.step (hk : s.Kept limits epoch) (hn : 0 < limits.trials)
    (hl : s.breaker.limits = limits) (he : s.admits e = true) :
    (s.step now e).Kept limits epoch where
  permits_le g hg := by
    rcases mem_permits_step hg with hg | ⟨-, hg⟩
    · exact (hk.permits_le g hg).trans (period_le ..)
    · exact hg.le
  log_le x hx := by
    rcases List.mem_cons.mp hx with rfl | hx
    · exact period_le ..
    · exact (hk.log_le x hx).trans (period_le ..)
  log_effect x hx := by
    rcases List.mem_cons.mp hx with rfl | hx
    · rfl
    · exact hk.log_effect x hx
  counted h' := by
    by_cases hs : s.breaker.state = .halfOpen
    · exact (hk.counted hs).step hs hl he h'
    · exact counted_of_begins hn hk.permits_le hk.log_le hs h'

end Session

/-- **The balance of trials** in every session that can be reached, done by hand or not. -/
theorem Reached.kept {limits : Limits} {epoch t : Instant} {s : Session}
    (h : Reached limits epoch t s) (hn : 0 < limits.trials) : s.Kept limits epoch := by
  induction h with
  | start => exact
    { permits_le := by simp [Session.start]
      log_le := by simp [Session.start]
      log_effect := by simp [Session.start]
      counted := by simp [Session.start, create] }
  | step h _ he ih => exact ih.step hn h.setup.1 he

end HttpGateway.Breaker
