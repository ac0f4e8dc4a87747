/-
Whom the trials of a half-open period concern.

* `half_open_balance` — as long as nothing is done by hand, no trial outlives its period: the trials
  that the breaker has issued are those that are out and those that are done, and the last of them
  decides.
* `periods_apart_iff_none_intrudes` — a breaker that is reset or switched by hand may become
  half-open again while trials of an earlier period are out. They leave the later period alone
  exactly if none of them is recorded in it, or dropped in it while a trial is issued.
-/
import HttpGateway.Proofs.Breaker.Trials

namespace HttpGateway.Breaker

namespace Session

variable {s : Session} {limits : Limits} {epoch now : Instant} {e : Event}

/-! ### The last trial decides -/

/-- What the outcome of a trial makes of a half-open breaker. -/
theorem Counted.state_record (hc : s.Counted limits epoch) (hs : s.breaker.state = .halfOpen)
    (hl : s.breaker.limits = limits) {g : Grant} (ht : g.issuedIn = .halfOpen) (success : Bool)
    (took : Instant) :
    let after := s.step now (.record g success took)
    after.breaker.state =
      if limits.trials ≤ (after.trials limits epoch).length then
        (if s.breaker.exceeds (tally (after.trials limits epoch)) then .opened else .closed)
      else .halfOpen := by
  intro after
  subst hl
  have hbreaker : after.breaker = _ := breaker_of_record hs ht success took
  rw [hbreaker, recordTrial_state now hs, trials_of_record hs ht, tally_cons, ← hc.trials_eq,
    List.length_cons, hc.calls_eq]

/-- A half-open breaker is left with the outcome that completes the trials, and with no other
event. -/
theorem Counted.leaves_iff (hc : s.Counted limits epoch) (hs : s.breaker.state = .halfOpen)
    (hl : s.breaker.limits = limits) (hhand : e.byHand = false) :
    (s.step now e).breaker.state ≠ .halfOpen ↔
      (∃ g success took, e = .record g success took) ∧
        ((s.step now e).trials limits epoch).length = limits.trials := by
  have hfew := hc.few
  by_cases hp : e.permit?.any (·.issuedIn = .halfOpen) = true
  · cases e with
    | record g success took =>
      have ht : g.issuedIn = .halfOpen := of_decide_eq_true hp
      rw [hc.state_record hs hl ht, trials_of_record hs ht, List.length_cons]
      by_cases hlast : limits.trials ≤ (s.trials limits epoch).length + 1
      · rw [if_pos hlast]
        refine iff_of_true ?_ ⟨⟨g, success, took, rfl⟩, by omega⟩
        split <;> simp
      · rw [if_neg hlast]
        exact iff_of_false (by simp) fun h => hlast h.2.ge
    | drop g =>
      refine iff_of_false ?_ (by simp)
      have ht : g.issuedIn = .halfOpen := of_decide_eq_true hp
      simp [Session.step, Event.effect, ht, release_halfOpen hs, hs]
    | _ => exact absurd hp (by simp [Event.permit?])
  · have hstate : (s.step now e).breaker.state = .halfOpen := by
      rcases effect_not_on_trial now hs hhand hp with ⟨heff, -⟩ | ⟨rfl, -, hb⟩
      · rw [Session.step, heff, hs]
      · rw [Session.step, Event.effect, hb]
        exact hs
    refine iff_of_false (not_not_intro hstate) fun h => ?_
    rw [trials_of_no_trial hs hp] at h
    omega

/-- The outcome that completes the trials is that of a trial. -/
theorem Counted.last_of_trial (hc : s.Counted limits epoch) (hs : s.breaker.state = .halfOpen)
    {g : Grant} {success : Bool} {took : Instant}
    (hlast : ((s.step now (.record g success took)).trials limits epoch).length = limits.trials) :
    g.issuedIn = .halfOpen := by
  by_contra ht
  have hp : ¬ (Event.record g success took).permit?.any (·.issuedIn = .halfOpen) = true :=
    fun hx => ht (of_decide_eq_true hx)
  rw [trials_of_no_trial hs hp] at hlast
  exact absurd hlast hc.few.ne

/-! ### Without intervention by hand -/

/-- What holds as long as nothing is done by hand: the trials that are out are those of the present
period, and none is left when it is over. -/
structure Orderly (s : Session) : Prop where
  none_left : s.breaker.state ≠ .halfOpen → ∀ g ∈ s.permits, g.issuedIn ≠ .halfOpen
  current : s.breaker.state = .halfOpen →
    ∀ g ∈ s.permits, g.issuedIn = .halfOpen → g.period = s.period
  timely : ∀ x ∈ s.log, ¬ x.isLate = true

theorem not_intrudes_of_timely {x : Entry} (h : ¬ x.isLate = true) : ¬ x.intrudes = true :=
  fun hx => h (Bool.and_eq_true_iff.mp hx).1

theorem Orderly.balance (ho : s.Orderly) (hc : s.Counted limits epoch) :
    s.outstanding + (s.trials limits epoch).length = s.breaker.issued :=
  hc.balance fun x hx _ => not_intrudes_of_timely (ho.timely x hx)

/-- The last outcome was that of the last trial. -/
theorem Orderly.none_out (ho : s.Orderly) (hc : s.Counted limits epoch)
    (hs : s.breaker.state = .halfOpen) (hl : s.breaker.limits = limits) (he : s.admits e = true)
    (hhand : e.byHand = false) (h' : (s.step now e).breaker.state ≠ .halfOpen) :
    ∀ g ∈ (s.step now e).permits, g.issuedIn ≠ .halfOpen := by
  obtain ⟨⟨g, success, took, rfl⟩, hlast⟩ := (hc.leaves_iff hs hl hhand).mp h'
  have hg : g ∈ s.permits := of_decide_eq_true he
  have ht : g.issuedIn = .halfOpen := hc.last_of_trial hs hlast
  -- All trials that were issued have been told, but for this one, which was out until now.
  have hcur : s.isCurrent g = true := by simp [isCurrent, ht, ho.current hs g hg ht]
  have hbal := ho.balance hc
  have hle := hc.issued_le
  have hout := countP_erase_current hg hcur
  rw [trials_of_record hs ht, List.length_cons] at hlast
  have hzero : (s.permits.erase g).countP s.isCurrent = 0 := by omega
  intro g' hg' ht'
  have hmem : g' ∈ s.permits := List.mem_of_mem_erase hg'
  refine List.countP_eq_zero.mp hzero g' hg' ?_
  simp [isCurrent, ht', ho.current hs g' hmem ht']

theorem Orderly.step (ho : s.Orderly) (hk : s.Kept limits epoch) (hl : s.breaker.limits = limits)
    (he : s.admits e = true) (hhand : e.byHand = false) : (s.step now e).Orderly where
  none_left h' g hg := by
    by_cases hs : s.breaker.state = .halfOpen
    · exact ho.none_out (hk.counted hs) hs hl he hhand h' g hg
    · rcases mem_permits_step hg with hg | ⟨hg, -⟩
      · exact ho.none_left hs g hg
      · exact fun ht => h' (hg.symm.trans ht)
  current h' g hg ht := by
    rcases mem_permits_step hg with hg | ⟨-, hg⟩
    · by_cases hs : s.breaker.state = .halfOpen
      · exact (ho.current hs g hg ht).trans (period_of_goes_on hs ..).symm
      · exact absurd ht (ho.none_left hs g hg)
    · exact hg
  timely x hx := by
    rcases List.mem_cons.mp hx with rfl | hx
    · intro hlate
      obtain ⟨hs, g, hg, ht, hp⟩ := isLate_iff.mp hlate
      rw [admits, hg] at he
      exact hp (ho.current hs g (of_decide_eq_true he) ht)
    · exact ho.timely x hx

end Session

theorem Reached.orderly {limits : Limits} {epoch t : Instant} {s : Session}
    (h : Reached limits epoch t s) (hn : 0 < limits.trials)
    (hand : ∀ x ∈ s.log, x.event.byHand = false) : s.Orderly := by
  induction h with
  | start => exact
    { none_left := by simp [Session.start]
      current := by simp [Session.start]
      timely := by simp [Session.start] }
  | step h _ he ih =>
    obtain ⟨hhand, hrest⟩ := List.forall_mem_cons.mp hand
    exact (ih hrest).step (h.kept hn) h.setup.1 he hhand

/-- **The trials of a half-open breaker**, as long as nothing is done by hand. The issued trials are
those that are out and those whose outcomes are counted; there are at most as many as are allowed,
and some of them are not done. The breaker is left exactly with the last outcome, when no trial is
out; the rates over all outcomes of the period say where it goes. -/
theorem half_open_balance {limits : Limits} {epoch t : Instant} {s : Session}
    (h : Reached limits epoch t s) (hn : 0 < limits.trials)
    (hand : ∀ x ∈ s.log, x.event.byHand = false) (hs : s.breaker.state = .halfOpen) :
    (s.breaker.issued = s.outstanding + (s.trials limits epoch).length ∧
      s.breaker.issued ≤ limits.trials ∧
      s.breaker.trials = tally (s.trials limits epoch) ∧
      (s.trials limits epoch).length < limits.trials) ∧
    ∀ now e, s.admits e → e.byHand = false →
      let after := s.step now e
      let told := after.trials limits epoch
      (after.breaker.state ≠ .halfOpen ↔
        (∃ g success took, e = .record g success took) ∧ told.length = limits.trials) ∧
      (after.breaker.state ≠ .halfOpen →
        (∀ g ∈ after.permits, g.issuedIn ≠ .halfOpen) ∧
        after.breaker.state =
          if limits.failureRate.le (tally told).failureRate ∨
              limits.slowRate.le (tally told).slowRate then .opened
          else .closed) := by
  have hc := (h.kept hn).counted hs
  have ho := h.orderly hn hand
  have hl := h.setup.1
  refine ⟨⟨(ho.balance hc).symm, hc.issued_le, hc.trials_eq, hc.few⟩, ?_⟩
  intro now e he hhand after told
  refine ⟨hc.leaves_iff hs hl hhand, fun h' => ⟨ho.none_out hc hs hl he hhand h', ?_⟩⟩
  obtain ⟨⟨g, success, took, rfl⟩, hlast⟩ := (hc.leaves_iff hs hl hhand).mp h'
  have hstate : after.breaker.state = _ :=
    hc.state_record hs hl (hc.last_of_trial hs hlast) success took
  rw [if_pos hlast.ge] at hstate
  simpa only [exceeds, hl, Bool.or_eq_true] using hstate

/-- Two trials are allowed. One is dropped and issued again, a call permitted earlier is given up in
between, and one trial succeeds; the last one fails, so that half of them have failed. -/
theorem half_open_balance_two_trials :
    let limits : Limits := ⟨.finite 50, .finite 50, 1000000, 0, 2, 1, 1⟩
    let early : Grant := ⟨.closed, 0⟩
    let trial : Grant := ⟨.halfOpen, 1⟩
    let events := [(0, .acquire), (0, .acquire), (0, .record early false 5), (1, .acquire),
      (2, .acquire), (3, .drop early), (4, .drop trial), (5, .acquire), (6, .record trial true 5)]
    let s := (Session.start limits 0).run events
    let after := s.step 7 (.record trial false 5)
    Reached limits 0 6 s ∧ s.breaker.issued = 2 ∧ s.outstanding + (s.trials limits 0).length = 2 ∧
      after.breaker.state = .opened ∧ ∀ g ∈ after.permits, g.issuedIn ≠ .halfOpen := by
  intro limits early trial events s after
  have hs : Reached limits 0 6 s := .run events .start (by decide +kernel)
  have h := half_open_balance hs (by decide) (by decide +kernel) (by decide +kernel)
  have hlast := h.2 7 (.record trial false 5) (by decide +kernel) rfl
  have hleft := hlast.2 (hlast.1.mpr ⟨⟨_, _, _, rfl⟩, by decide +kernel⟩)
  have hissued : s.breaker.issued = 2 := by decide +kernel
  exact ⟨hs, hissued, h.1.1.symm.trans hissued, hleft.2.trans (by decide +kernel), hleft.1⟩

/-! ### With intervention by hand -/

/-- The outcome of a trial never leaves a half-open breaker as it was. -/
theorem recordTrial_ne {b : Breaker} (h : b.state = .halfOpen) (now : Instant)
    (failure slow : Bool) : b.recordTrial now failure slow ≠ b := by
  intro heq
  -- Either the breaker is left, or the trials are one more.
  have hstate := recordTrial_state now h failure slow
  rw [heq, h] at hstate
  by_cases hlast : b.limits.trials ≤ b.trials.calls + 1
  · rw [if_pos hlast] at hstate
    split at hstate <;> simp at hstate
  · have htrials : (b.recordTrial now failure slow).trials.calls = b.trials.calls + 1 := by
      rw [recordTrial_eq, if_neg hlast]
      rfl
    rw [heq] at htrials
    omega

/-- A trial that is recorded or dropped in a later period leaves the breaker alone exactly if it
does not intrude. -/
theorem Session.Kept.unchanged_iff {s : Session} {limits : Limits} {epoch : Instant}
    (hk : s.Kept limits epoch) {x : Entry} (hx : x ∈ s.log) (hlate : x.isLate = true) :
    x.after = x.before ↔ ¬ x.intrudes = true := by
  have heff := hk.log_effect x hx
  obtain ⟨htrial, -⟩ := Bool.and_eq_true_iff.mp hlate
  obtain ⟨hstate, hp⟩ := Bool.and_eq_true_iff.mp htrial
  have hs : x.before.state = .halfOpen := of_decide_eq_true hstate
  cases he : x.event with
  | record g success took =>
    rw [he] at heff hp
    have ht : g.issuedIn = .halfOpen := of_decide_eq_true hp
    have hintrudes : x.intrudes = true := by simp [Entry.intrudes, hlate, he]
    refine iff_of_false ?_ (not_not_intro hintrudes)
    rw [heff, Event.effect, ht, record_halfOpen _ hs]
    exact recordTrial_ne hs _ _ _
  | drop g =>
    rw [he] at heff hp
    have ht : g.issuedIn = .halfOpen := of_decide_eq_true hp
    have hintrudes : x.intrudes = true ↔ 0 < x.before.issued := by
      simp [Entry.intrudes, hlate, he]
    rw [heff, Event.effect, ht, release_halfOpen hs, hintrudes]
    constructor
    · intro heq
      have hissued : x.before.issued - 1 = x.before.issued := congrArg Breaker.issued heq
      omega
    · intro hnone
      rw [show x.before.issued - 1 = x.before.issued by omega]
  | _ =>
    rw [he] at hp
    exact absurd hp (by simp [Event.permit?])

/-- **When periods are kept apart.** Trials of earlier half-open periods leave a later one alone,
and no more trials than allowed are out or done in it, exactly if no such trial is recorded in a
later period, or dropped in one while a trial is issued. For the balance of the present period only
what intruded into this one matters. -/
theorem periods_apart_iff_none_intrudes {limits : Limits} {epoch t : Instant} {s : Session}
    (h : Reached limits epoch t s) (hn : 0 < limits.trials) :
    (((s.breaker.state = .halfOpen →
          s.outstanding + (s.trials limits epoch).length ≤ limits.trials) ∧
        ∀ x ∈ s.log, x.isLate = true → x.after = x.before) ↔
      ∀ x ∈ s.log, ¬ x.intrudes = true) ∧
    ((∀ x ∈ s.log, x.period = s.period → ¬ x.intrudes = true) → s.breaker.state = .halfOpen →
      s.outstanding + (s.trials limits epoch).length = s.breaker.issued ∧
        s.breaker.issued ≤ limits.trials) := by
  have hk := h.kept hn
  have hbalance : (∀ x ∈ s.log, x.period = s.period → ¬ x.intrudes = true) →
      s.breaker.state = .halfOpen →
      s.outstanding + (s.trials limits epoch).length = s.breaker.issued ∧
        s.breaker.issued ≤ limits.trials :=
    fun hx hs => ⟨(hk.counted hs).balance hx, (hk.counted hs).issued_le⟩
  refine ⟨⟨?_, fun hnone => ⟨fun hs => ?_, fun x hx hlate => ?_⟩⟩, hbalance⟩
  · rintro ⟨-, hapart⟩ x hx hintrudes
    have hlate : x.isLate = true := (Bool.and_eq_true_iff.mp hintrudes).1
    exact (hk.unchanged_iff hx hlate).mp (hapart x hx hlate) hintrudes
  · obtain ⟨heq, hle⟩ := hbalance (fun x hx _ => hnone x hx) hs
    exact heq.le.trans hle
  · exact (hk.unchanged_iff hx hlate).mpr (hnone x hx)

/-- One trial is allowed. It is still out when the breaker is held open by hand and reset, and is
dropped in the next half-open period, in which no trial is issued any more. -/
theorem periods_apart_iff_none_intrudes_harmless :
    let limits : Limits := ⟨.finite 50, .finite 50, 1000000, 0, 1, 1, 1⟩
    let call : Grant := ⟨.closed, 0⟩
    let events := [(0, .acquire), (0, .record call false 5), (1, .acquire), (2, .forceOpen),
      (2, .reset), (3, .acquire), (3, .record ⟨.closed, 1⟩ false 5), (4, .acquire),
      (5, .drop ⟨.halfOpen, 2⟩), (6, .drop ⟨.halfOpen, 1⟩), (7, .acquire)]
    let s := (Session.start limits 0).run events
    Reached limits 0 7 s ∧ (∃ x ∈ s.log, x.isLate = true) ∧
      (∀ x ∈ s.log, x.isLate = true → x.after = x.before) ∧
      s.outstanding + (s.trials limits 0).length ≤ 1 := by
  intro limits call events s
  have hs : Reached limits 0 7 s := .run events .start (by decide +kernel)
  have h := (periods_apart_iff_none_intrudes hs (by decide)).1.mpr (by decide +kernel)
  exact ⟨hs, by decide +kernel, h.2, h.1 (by decide +kernel)⟩

/-- **A trial of an earlier period can make room for one too many.** One trial is allowed. It is
still out when the breaker is held open by hand and reset, and is dropped in the next half-open
period, whose own trial is out: the breaker takes that one back and issues another. -/
theorem earlier_trial_makes_room :
    let limits : Limits := ⟨.finite 50, .finite 50, 1000000, 0, 1, 1, 1⟩
    let call : Grant := ⟨.closed, 0⟩
    let events := [(0, .acquire), (0, .record call false 5), (1, .acquire), (2, .forceOpen),
      (2, .reset), (3, .acquire), (3, .record ⟨.closed, 1⟩ false 5), (4, .acquire),
      (5, .drop ⟨.halfOpen, 1⟩), (6, .acquire)]
    let s := (Session.start limits 0).run events
    Reached limits 0 6 s ∧ s.breaker.state = .halfOpen ∧
      limits.trials < s.outstanding + (s.trials limits 0).length ∧
      ∃ x ∈ s.log, x.isLate = true ∧ x.after ≠ x.before := by
  intro limits call events s
  exact ⟨.run events .start (by decide +kernel), by decide +kernel, by decide +kernel,
    by decide +kernel⟩

end HttpGateway.Breaker
