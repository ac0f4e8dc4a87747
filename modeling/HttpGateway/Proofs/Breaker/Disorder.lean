/-
Outcomes that do not come in the order of their seconds.

* **Window.recorded** — a window in which outcomes were counted, whatever their seconds are. The
  last one of them comes first.
* **standing** — the outcomes that are still in a bucket. Each one that comes empties the bucket of
  its second of all that lies in other seconds, older or newer.
* **Holds** — every bucket has the tally of the standing outcomes with its remainder, and they all
  lie in its second; `holds_recorded` has it for every order.
* `totals_recorded` — so the sum over the buckets is the tally of the standing outcomes that are
  covered.
* **Totals.Fits** — what counters of 32 bits can hold, and do hold of fewer than `2 ^ 32` outcomes.
* `all_counted_iff` — nothing that is covered is lost exactly if none of it is followed by an
  outcome that lies whole lengths of the window before it.

A clock that is read before one's turn comes is all that it takes: whoever had to wait across the
turn of a second tells of an older second than the one before. A window of one second is then
emptied by it.
-/
import HttpGateway.Breaker.Basic
import HttpGateway.Proofs.Breaker.Window
import Mathlib.Algebra.BigOperators.Group.Finset.Basic
import Mathlib.Algebra.BigOperators.Group.Finset.Piecewise

namespace HttpGateway.Breaker

variable {length now i : Nat} {o : Outcome} {outcomes held past : List Outcome}

/-! ### Tallies by remainder -/

theorem tally_cons_eq_add (o : Outcome) (outcomes : List Outcome) :
    tally (o :: outcomes) = tally outcomes + tally [o] := by
  rw [tally_cons, tally_cons, Totals.count_eq_add]
  rfl

/-- Counts that 32 bits can hold. -/
structure Totals.Fits (t : Totals) : Prop where
  calls : t.calls < 2 ^ 32
  failures : t.failures < 2 ^ 32
  slow : t.slow < 2 ^ 32

theorem fits_tally (h : outcomes.length < 2 ^ 32) : (tally outcomes).Fits :=
  ⟨h, List.countP_le_length.trans_lt h, List.countP_le_length.trans_lt h⟩

theorem tally_eq_zero_iff : tally outcomes = 0 ↔ outcomes = [] := by
  refine ⟨fun h => List.length_eq_zero_iff.mp (congrArg Totals.calls h), fun h => ?_⟩
  rw [h, tally_nil]

/-- Every outcome has one remainder. -/
theorem sum_tally_remainders (hpos : 0 < length) (outcomes : List Outcome) :
    ∑ i ∈ Finset.range length, tally (outcomes.filter (·.second % length = i))
      = tally outcomes := by
  induction outcomes with
  | nil => simp
  | cons o past ih =>
    have hsplit : ∀ i, tally ((o :: past).filter (·.second % length = i))
        = tally (past.filter (·.second % length = i))
          + if o.second % length = i then tally [o] else 0 := by
      intro i
      rw [List.filter_cons]
      by_cases hi : o.second % length = i
      · rw [if_pos (by simpa using hi), if_pos hi, tally_cons_eq_add]
      · rw [if_neg (by simpa using hi), if_neg hi, add_zero]
    simp only [hsplit, Finset.sum_add_distrib, ih, Finset.sum_ite_eq, Finset.mem_range,
      Nat.mod_lt _ hpos, if_true]
    exact (tally_cons_eq_add o past).symm

/-! ### What stands -/

/-- Whether the outcome `later` leaves one that was there before in its bucket. -/
def Outcome.spares (length : Nat) (later o : Outcome) : Bool :=
  o.second % length ≠ later.second % length || o.second = later.second

theorem Outcome.spares_iff {later : Outcome} :
    later.spares length o = true ↔
      (o.second % length = later.second % length → o.second = later.second) := by
  simp [spares, imp_iff_not_or]

/-- The outcomes that are still in a bucket. -/
def standing (length : Nat) : List Outcome → List Outcome
  | [] => []
  | o :: past => o :: (standing length past).filter (o.spares length)

theorem standing_sublist (length : Nat) (outcomes : List Outcome) :
    (standing length outcomes).Sublist outcomes := by
  induction outcomes with
  | nil => exact .slnil
  | cons o past ih => exact (List.filter_sublist.trans ih).cons_cons o

/-- All that passes a test still stands exactly if none of it is followed by an outcome of another
second with the same remainder. -/
theorem filter_standing_eq_iff (length : Nat) (test : Outcome → Bool) (outcomes : List Outcome) :
    (standing length outcomes).filter test = outcomes.filter test ↔
      outcomes.Pairwise fun later o =>
        test o → o.second % length = later.second % length → o.second = later.second := by
  induction outcomes with
  | nil => simp [standing]
  | cons o past ih =>
    have hcons : (standing length (o :: past)).filter test = (o :: past).filter test ↔
        ((standing length past).filter test).filter (o.spares length) = past.filter test := by
      rw [standing, List.filter_cons, List.filter_cons, List.filter_comm]
      by_cases ho : test o = true
      · rw [if_pos ho, if_pos ho, List.cons_inj_right]
      · rw [if_neg ho, if_neg ho]
    have hsub := (standing_sublist length past).filter test
    rw [hcons, List.pairwise_cons, ← ih]
    constructor
    · intro heq
      have hsame : (standing length past).filter test = past.filter test :=
        hsub.antisymm (heq ▸ List.filter_sublist)
      rw [hsame, List.filter_eq_self] at heq
      exact ⟨fun p hp htest => Outcome.spares_iff.mp (heq p (List.mem_filter.mpr ⟨hp, htest⟩)),
        hsame⟩
    · rintro ⟨hnone, hsame⟩
      rw [hsame, List.filter_eq_self]
      intro p hp
      obtain ⟨hmem, htest⟩ := List.mem_filter.mp hp
      exact Outcome.spares_iff.mpr (hnone p hmem htest)

namespace Window

/-- A window of `length` seconds in which outcomes were counted, the last one first. -/
def recorded (length : Nat) (outcomes : List Outcome) : Window :=
  outcomes.foldr (fun o w => w.record o.second o.failure o.slow) (.empty length)

@[simp] theorem length_recorded (length : Nat) (outcomes : List Outcome) :
    (recorded length outcomes).length = length := by
  induction outcomes with
  | nil => exact length_empty length
  | cons o past ih => exact (length_record ..).trans ih

/-- Every bucket counts the outcomes with its remainder, and they are all in its second. -/
structure Holds (w : Window) (held : List Outcome) : Prop where
  counts_eq : ∀ i b, w.buckets[i]? = some b →
    b.counts = tally (held.filter (·.second % w.length = i))
  second_eq : ∀ i b, w.buckets[i]? = some b → ∀ o ∈ held, o.second % w.length = i →
    o.second = b.second

theorem holds_empty (length : Nat) : (empty length).Holds [] where
  counts_eq i b hb := by
    simp only [empty, List.getElem?_replicate, Option.ite_none_right_eq_some] at hb
    rw [← Option.some.inj hb.2]
    rfl
  second_eq i b _ := by simp

/-- One more outcome: it goes into its bucket, which is emptied before if it was last used for
another second. -/
theorem Holds.record {w : Window} (h : w.Holds held) (hpos : 0 < w.length) (o : Outcome) :
    (w.record o.second o.failure o.slow).Holds (o :: held.filter (o.spares w.length)) := by
  have hlt : o.second % w.length < w.buckets.length := Nat.mod_lt _ hpos
  have hb₀ := List.getElem?_eq_getElem hlt
  set b₀ := w.buckets[o.second % w.length]
  -- What was in the bucket stays in it, all of it or nothing.
  have hcounts : (w.bucketFor o.second).counts = tally ((held.filter (o.spares w.length)).filter
      (·.second % w.length = o.second % w.length)) := by
    by_cases hs : b₀.second = o.second
    · have hfor : w.bucketFor o.second = b₀ := by simp [bucketFor, hb₀, hs]
      rw [hfor, h.counts_eq _ b₀ hb₀, List.filter_filter]
      refine congrArg tally (List.filter_congr fun p hp => ?_)
      by_cases hmod : p.second % w.length = o.second % w.length
      · have hsecond := (h.second_eq _ b₀ hb₀ p hp hmod).trans hs
        simp [Outcome.spares, hsecond]
      · simp [hmod]
    · have hfor : w.bucketFor o.second = { second := o.second } := by simp [bucketFor, hb₀, hs]
      rw [hfor]
      refine (tally_eq_zero_iff.mpr (List.filter_eq_nil_iff.mpr fun p hp hmod => ?_)).symm
      obtain ⟨hmem, hspares⟩ := List.mem_filter.mp hp
      have hsecond := h.second_eq _ b₀ hb₀ p hmem (of_decide_eq_true hmod)
      exact hs (hsecond.symm.trans (Outcome.spares_iff.mp hspares (of_decide_eq_true hmod)))
  have hbuckets : ∀ i b, (w.record o.second o.failure o.slow).buckets[i]? = some b →
      o.second % w.length = i ∧ b.second = o.second ∧
        b.counts = (w.bucketFor o.second).counts.count o.failure o.slow ∨
      o.second % w.length ≠ i ∧ w.buckets[i]? = some b := by
    intro i b hb
    rw [Window.record, List.getElem?_set] at hb
    split at hb
    · next hi =>
      obtain rfl := Option.some.inj hb
      exact .inl ⟨hi, w.second_bucketFor o.second, rfl⟩
    · next hi => exact .inr ⟨hi, hb⟩
  constructor
  · intro i b hb
    rw [length_record]
    obtain ⟨rfl, -, hb⟩ | ⟨hi, hb⟩ := hbuckets i b hb
    · rw [hb, hcounts, List.filter_cons_of_pos (by simp), tally_cons]
    · rw [h.counts_eq i b hb, List.filter_cons_of_neg (by simpa using hi), List.filter_filter]
      refine congrArg tally (List.filter_congr fun p _ => ?_)
      by_cases hmod : p.second % w.length = i
      · simp [Outcome.spares, hmod, Ne.symm hi]
      · simp [hmod]
  · intro i b hb p hp hi
    rw [length_record] at hi
    obtain ⟨rfl, hs, -⟩ | ⟨hne, hb⟩ := hbuckets i b hb
    · rcases List.mem_cons.mp hp with rfl | hp
      · exact hs.symm
      · exact (Outcome.spares_iff.mp (List.mem_filter.mp hp).2 hi).trans hs.symm
    · rcases List.mem_cons.mp hp with rfl | hp
      · exact absurd hi hne
      · exact h.second_eq i b hb p (List.mem_filter.mp hp).1 hi

theorem holds_recorded (hpos : 0 < length) (outcomes : List Outcome) :
    (recorded length outcomes).Holds (standing length outcomes) := by
  induction outcomes with
  | nil => exact holds_empty length
  | cons o past ih =>
    have hnext := ih.record (by rwa [length_recorded]) o
    rwa [length_recorded] at hnext

/-- A bucket counts no more outcomes than there are. -/
theorem Holds.fits {w : Window} (h : w.Holds held) (hfew : held.length < 2 ^ 32) {b : Bucket}
    (hb : b ∈ w.buckets) : b.counts.Fits := by
  obtain ⟨i, hi⟩ := List.mem_iff_getElem?.mp hb
  rw [h.counts_eq i b hi]
  exact fits_tally ((List.length_filter_le ..).trans_lt hfew)

/-- What a bucket contributes is the tally of what is covered of its outcomes. -/
theorem Holds.share_eq {w : Window} (h : w.Holds held) {b : Bucket} (hb : w.buckets[i]? = some b)
    (now : Nat) : w.share now b = tally ((held.filter (·.within w.length now)).filter
      (·.second % w.length = i)) := by
  have hsecond : ∀ p ∈ held.filter (·.second % w.length = i), p.second = b.second := fun p hp =>
    h.second_eq i b hb p (List.mem_filter.mp hp).1 (by simpa using (List.mem_filter.mp hp).2)
  rw [List.filter_comm, share, covers, h.counts_eq i b hb]
  cases hclass : held.filter (·.second % w.length = i) with
  | nil => simp
  | cons p rest =>
    rw [hclass] at hsecond
    have hwithin : ∀ q ∈ p :: rest, q.within w.length now = true ↔
        now < b.second + w.length ∧ b.second ≤ now := by
      intro q hq
      simp [Outcome.within, hsecond q hq, and_comm]
    have hcalls : 0 < (tally (p :: rest)).calls := Nat.succ_pos rest.length
    by_cases hc : now < b.second + w.length ∧ b.second ≤ now
    · rw [List.filter_eq_self.mpr fun q hq => (hwithin q hq).mpr hc, if_pos (by simp [hcalls, hc])]
    · rw [List.filter_eq_nil_iff.mpr fun q hq => (hwithin q hq).not.mpr hc, tally_nil,
        if_neg (by simpa [hcalls] using hc)]

/-- The sum over the buckets is the tally of what stands and is covered. -/
theorem totals_recorded (hpos : 0 < length) (outcomes : List Outcome) (now : Nat) :
    (recorded length outcomes).totals now
      = tally ((standing length outcomes).filter (·.within length now)) := by
  have hholds := holds_recorded hpos outcomes
  have hlength := length_recorded length outcomes
  set w := recorded length outcomes
  rw [totals_eq_sum, ← sum_tally_remainders hpos]
  have hshares : w.buckets.map (w.share now) = (List.range length).map fun i =>
      tally (((standing length outcomes).filter (·.within length now)).filter
        (·.second % length = i)) := by
    have hbuckets : (w.buckets.map (w.share now)).length = length :=
      (List.length_map _).trans hlength
    refine List.ext_getElem (by rw [hbuckets, List.length_map, List.length_range]) fun i hi _ => ?_
    rw [List.getElem_map, List.getElem_map, List.getElem_range,
      hholds.share_eq (List.getElem?_eq_getElem (by simpa using hi)), hlength]
  rw [hshares]
  rfl

end Window

/-- Of two outcomes that are not after `now`, the second one being covered, the first one can only
empty the bucket of the second if it is whole lengths of the window older. -/
theorem same_second_iff {later : Outcome} (hlater : later.second ≤ now)
    (ho : o.within length now = true) :
    (o.second % length = later.second % length → o.second = later.second) ↔
      ¬ (later.second < o.second ∧ length ∣ o.second - later.second) := by
  have hcovered : now < o.second + length := by simp_all [Outcome.within]
  constructor
  · rintro hsame ⟨hlt, hdvd⟩
    exact hlt.ne' (hsame ((Nat.modEq_iff_dvd' hlt.le).mpr hdvd).symm)
  · intro hnot hmod
    rcases lt_trichotomy o.second later.second with hlt | heq | hlt
    · have := Window.add_length_le hmod hlt
      omega
    · exact heq
    · exact absurd ⟨hlt, (Nat.modEq_iff_dvd' hlt.le).mp hmod.symm⟩ hnot

/-- **When nothing is lost.** Outcomes are counted in any order of their seconds. At the last one of
the seconds, and later, what is counted is what stands of the outcomes that are covered. It is all
of them exactly if none of them is followed by an outcome that lies whole lengths of the window
before it; so it is as long as no outcome comes later than another one whose second is a length of
the window or more after its own. There are fewer outcomes than 32 bits can count, so no count of a
bucket, and none of the sum, is too large for them. -/
theorem all_counted_iff (hpos : 0 < length) (hfew : outcomes.length < 2 ^ 32)
    (hnow : ∀ o ∈ outcomes, o.second ≤ now) :
    let w := Window.recorded length outcomes
    ((∀ b ∈ w.buckets, b.counts.Fits) ∧ (w.totals now).Fits) ∧
    w.totals now = tally ((standing length outcomes).filter (·.within length now)) ∧
    (w.totals now = tally (outcomes.filter (·.within length now)) ↔
      outcomes.Pairwise fun later o => o.within length now →
        ¬ (later.second < o.second ∧ length ∣ o.second - later.second)) ∧
    ((outcomes.Pairwise fun later o => o.second < later.second + length) →
      w.totals now = tally (outcomes.filter (·.within length now))) := by
  intro w
  have htotals := Window.totals_recorded hpos outcomes now
  have hiff : w.totals now = tally (outcomes.filter (·.within length now)) ↔
      outcomes.Pairwise fun later o => o.within length now →
        ¬ (later.second < o.second ∧ length ∣ o.second - later.second) := by
    have hsub := (standing_sublist length outcomes).filter (·.within length now)
    rw [htotals]
    calc tally ((standing length outcomes).filter (·.within length now))
          = tally (outcomes.filter (·.within length now))
        ↔ (standing length outcomes).filter (·.within length now)
          = outcomes.filter (·.within length now) :=
          ⟨fun h => hsub.eq_of_length (congrArg Totals.calls h), congrArg tally⟩
      _ ↔ _ := filter_standing_eq_iff length (·.within length now) outcomes
      _ ↔ _ := List.Pairwise.iff_of_mem fun hlater _ =>
          forall_congr' fun ho => same_second_iff (hnow _ hlater) ho
  have hheld : (standing length outcomes).length < 2 ^ 32 :=
    (standing_sublist length outcomes).length_le.trans_lt hfew
  have hfits : (w.totals now).Fits := by
    rw [htotals]
    exact fits_tally ((List.length_filter_le ..).trans_lt hheld)
  refine ⟨⟨fun b hb => (Window.holds_recorded hpos outcomes).fits hheld hb, hfits⟩, htotals, hiff,
    fun hsoon => hiff.mpr (hsoon.imp fun {later o} h _ hlate => ?_)⟩
  have := Nat.le_of_dvd (Nat.sub_pos_of_lt hlate.1) hlate.2
  omega

/-- Five outcomes in a window of three seconds, two of which are told after newer ones. All but the
oldest one are covered, and are counted. -/
theorem all_counted_iff_little_late :
    let outcomes : List Outcome :=
      [⟨2, true, false⟩, ⟨4, true, true⟩, ⟨3, false, false⟩, ⟨4, false, false⟩, ⟨1, true, false⟩]
    outcomes.length < 2 ^ 32 ∧ (∀ o ∈ outcomes, o.second ≤ 4) ∧
      (outcomes.Pairwise fun later o => o.second < later.second + 3) ∧
      (Window.recorded 3 outcomes).totals 4 = ⟨4, 2, 1⟩ := by
  intro outcomes
  have hfew : outcomes.length < 2 ^ 32 := by decide
  have hnow : ∀ o ∈ outcomes, o.second ≤ 4 := by decide
  have hsoon : outcomes.Pairwise fun later o => o.second < later.second + 3 := by decide
  exact ⟨hfew, hnow, hsoon, (all_counted_iff (by decide : 0 < 3) hfew hnow).2.2.2 hsoon⟩

/-- **A late outcome erases newer ones.** The window is one second long, and of three outcomes the
second one is of the second before. It empties the bucket, and the last one does so again: of two
failures that are covered one is counted. Told in the order of their seconds, the same outcomes open
the breaker; so they do not. A window of ten seconds is emptied by an outcome that is ten seconds
late. -/
theorem late_outcome_erases :
    let outcomes : List Outcome := [⟨1, true, false⟩, ⟨0, false, false⟩, ⟨1, true, false⟩]
    let limits := Limits.ofSettings
      { failureRateThreshold := .finite 75, minimumNumberOfCalls := 2, slidingWindowSecs := 1 }
    let told (b : Breaker) (now : Instant) (success : Bool) := b.record .closed now success 5
    let b := Breaker.create limits 0
    (Window.recorded 1 outcomes).totals 1 = ⟨1, 1, 0⟩ ∧
      tally (outcomes.filter (·.within 1 1)) = ⟨2, 2, 0⟩ ∧
      (told (told (told b 1000000 false) 999000 true) 1000000 false).state = .closed ∧
      (told (told (told b 999000 true) 1000000 false) 1000000 false).state = .opened ∧
      (Window.recorded 10 [⟨2, false, false⟩, ⟨12, true, false⟩]).totals 12 = 0 := by
  decide +kernel

end HttpGateway.Breaker
