/-
How long the delays between attempts are.

* **exactDelay** — the delay after an attempt without any jitter, in numbers that know no limit.
* `plainDelay_eq_exactDelay` — a power and a product that stop at the largest number come to the
  same, as long as no maximum is beyond that number.
* `exists_jitterWithin_iff` — what jitter can add.
* `backoff_within_tenth` — with jitter a delay is at most a tenth longer, and never longer than the
  maximum.

That the power stops is of no consequence because the maximum stops the delay before. The sum with
the jitter has nothing to stop it: it stays below the largest number because the maximum is less
than half of that.
-/
import HttpGateway.Retry.Backoff
import Mathlib.Algebra.Order.Ring.Nat
import Mathlib.Order.MinMax

namespace HttpGateway.Retry

variable {attempt base most delay extra : Nat}

/-- The delay after an attempt, without any jitter: twice as long after each further one, up to a
maximum. -/
def exactDelay (base most attempt : Nat) : Nat := min (base * 2 ^ (attempt - 1)) most

theorem exactDelay_le (base most attempt : Nat) : exactDelay base most attempt ≤ most :=
  Nat.min_le_right ..

theorem exactDelay_mono (base most : Nat) : Monotone (exactDelay base most) := by
  intro attempt later h
  have hpower : 2 ^ (attempt - 1) ≤ 2 ^ (later - 1) :=
    Nat.pow_le_pow_right (by decide) (Nat.sub_le_sub_right h 1)
  have hproduct : base * 2 ^ (attempt - 1) ≤ base * 2 ^ (later - 1) :=
    Nat.mul_le_mul_left base hpower
  exact min_le_min_right most hproduct

/-! ### Numbers that stop -/

/-- A product that stops beyond the maximum is as good as one that does not. -/
theorem min_cappedProduct (h : most ≤ largestWord) (a b : Nat) :
    min (cappedProduct a b) most = min (a * b) most := by
  rw [cappedProduct, min_assoc, min_eq_right h]

/-- Once the power has stopped, both it and the true one take any delay beyond the maximum. -/
theorem min_mul_cappedPower (h : most ≤ largestWord) (base exponent : Nat) :
    min (base * cappedPower exponent) most = min (base * 2 ^ exponent) most := by
  by_cases hexponent : exponent < 64
  · rw [cappedPower, if_pos hexponent]
    rfl
  have hstopped : cappedPower exponent = largestWord := if_neg hexponent
  cases base with
  | zero => rw [Nat.zero_mul, Nat.zero_mul]
  | succ n =>
    have hpower : largestWord ≤ 2 ^ exponent :=
      (Nat.sub_le _ 1).trans (Nat.pow_le_pow_right (by decide) (Nat.le_of_not_lt hexponent))
    have hbeyond : ∀ p, largestWord ≤ p → most ≤ (n + 1) * p := fun p hp =>
      (h.trans hp).trans (Nat.le_mul_of_pos_left p n.succ_pos)
    rw [hstopped, min_eq_right (hbeyond _ le_rfl), min_eq_right (hbeyond _ hpower)]

theorem plainDelay_eq_exactDelay (h : most ≤ largestWord) (attempt base : Nat) :
    plainDelay attempt base most = exactDelay base most attempt := by
  rw [plainDelay, min_cappedProduct h, min_mul_cappedPower h, exactDelay]

/-! ### Jitter -/

/-- Whether a delay can be made longer by some time: that is less than a tenth of it, in whole
milliseconds, and nothing where there are less than ten of them. -/
def IsJitter (delay extra : Nat) : Prop := extra < delay / 10 ∨ delay / 10 = 0 ∧ extra = 0

theorem exists_jitterWithin_iff :
    (∃ jitter, jitterWithin delay jitter = extra) ↔ IsJitter delay extra := by
  unfold jitterWithin IsJitter
  by_cases hnone : delay / 10 = 0
  · simp [hnone, eq_comm]
  · simp only [hnone, if_false, false_and, or_false]
    constructor
    · rintro ⟨jitter, rfl⟩
      exact Nat.mod_lt _ (Nat.pos_of_ne_zero hnone)
    · intro hextra
      exact ⟨extra, Nat.mod_eq_of_lt hextra⟩

theorem isJitter_jitterWithin (delay jitter : Nat) : IsJitter delay (jitterWithin delay jitter) :=
  exists_jitterWithin_iff.mp ⟨jitter, rfl⟩

theorem IsJitter.le_tenth (h : IsJitter delay extra) : 10 * extra ≤ delay := by
  unfold IsJitter at h
  omega

/-- A delay of less than two tens has no room for jitter: of a tenth there is at most one
millisecond, and jitter is less than that. -/
theorem IsJitter.eq_zero (h : IsJitter delay extra) (hshort : delay < 20) : extra = 0 := by
  unfold IsJitter at h
  omega

/-- Jitter makes a delay at most a tenth longer, and leaves it as it is where there is no room. -/
theorem IsJitter.within_tenth (h : IsJitter delay extra) (hdelay : delay ≤ most) :
    delay ≤ min (delay + extra) most ∧ 10 * (min (delay + extra) most - delay) ≤ delay ∧
      (delay < 20 ∨ delay = most → min (delay + extra) most = delay) := by
  have htenth := h.le_tenth
  refine ⟨by omega, by omega, ?_⟩
  rintro (hshort | rfl)
  · rw [h.eq_zero hshort, Nat.add_zero, min_eq_left hdelay]
  · exact min_eq_right (Nat.le_add_right ..)

/-! ### The delay -/

theorem backoff_eq (hattempt : 1 ≤ attempt) (hmost : most ≤ largestWord) (base jitter : Nat) :
    backoff attempt base most jitter
      = min (exactDelay base most attempt + jitterWithin (exactDelay base most attempt) jitter)
          most := by
  rw [backoff, if_neg (by omega), plainDelay_eq_exactDelay hmost]

/-- **A delay is at most a tenth longer than it should be, and never longer than the maximum.** It
should be twice as long after each further attempt, up to the maximum. Where the maximum is a number
of 63 bits, this is what comes out although the power and the product stop at the largest number of
64 bits, and the sum with the jitter, which does not stop, stays below that number whatever jitter
there is. A delay below twenty milliseconds and one that is as long as the maximum stay as they
are. -/
theorem backoff_within_tenth (hattempt : 1 ≤ attempt) (hmost : most ≤ 2 ^ 63 - 1) (base : Nat) :
    let d := exactDelay base most attempt
    plainDelay attempt base most = d ∧
    (∀ later, attempt ≤ later → d ≤ exactDelay base most later) ∧
    (∀ extra, IsJitter d extra →
      ∃ jitter, backoff attempt base most jitter = min (d + extra) most) ∧
    ∀ jitter,
      d + jitterWithin d jitter < 2 ^ 64 ∧
      d ≤ backoff attempt base most jitter ∧
      backoff attempt base most jitter ≤ most ∧
      10 * (backoff attempt base most jitter - d) ≤ d ∧
      (d < 20 ∨ d = most → backoff attempt base most jitter = d) := by
  intro d
  have hwords : most ≤ largestWord := hmost.trans (by decide)
  have hd : d ≤ most := exactDelay_le base most attempt
  have hbackoff := backoff_eq hattempt hwords base
  refine ⟨plainDelay_eq_exactDelay hwords attempt base, fun later h => exactDelay_mono base most h,
    fun extra hextra => ?_, fun jitter => ?_⟩
  · obtain ⟨jitter, rfl⟩ := exists_jitterWithin_iff.mpr hextra
    exact ⟨jitter, hbackoff jitter⟩
  · have hjitter := isJitter_jitterWithin d jitter
    obtain ⟨hlow, htenth, hsame⟩ := hjitter.within_tenth hd
    have hsum : d + jitterWithin d jitter < 2 ^ 64 := by
      have hextra := hjitter.le_tenth
      omega
    rw [hbackoff jitter]
    exact ⟨hsum, hlow, Nat.min_le_right .., htenth, hsame⟩

/-- After the two hundredth attempt the power has long stopped, and the delay is the maximum, here
the largest one that there is. After the tenth it still doubles, and jitter adds almost a tenth. -/
theorem backoff_within_tenth_two_hundredth :
    (∀ jitter, 2 ^ 63 - 1 + jitterWithin (2 ^ 63 - 1) jitter < 2 ^ 64 ∧
      backoff 200 100 (2 ^ 63 - 1) jitter = 2 ^ 63 - 1) ∧
    exactDelay 100 (2 ^ 63 - 1) 10 = 51200 ∧ backoff 10 100 (2 ^ 63 - 1) 5119 = 56319 ∧
    10 * (backoff 10 100 (2 ^ 63 - 1) 5119 - 51200) ≤ 51200 := by
  have hlongest : exactDelay 100 (2 ^ 63 - 1) 200 = 2 ^ 63 - 1 := by decide +kernel
  have htenth : exactDelay 100 (2 ^ 63 - 1) 10 = 51200 := by decide +kernel
  obtain ⟨-, -, -, hlate⟩ := backoff_within_tenth (by decide : 1 ≤ 200) le_rfl 100
  obtain ⟨-, -, -, hearly⟩ := backoff_within_tenth (by decide : 1 ≤ 10) le_rfl 100
  rw [hlongest] at hlate
  rw [htenth] at hearly
  refine ⟨fun jitter => ?_, htenth, by decide +kernel, (hearly 5119).2.2.2.1⟩
  obtain ⟨hsum, -, -, -, hsame⟩ := hlate jitter
  exact ⟨hsum, hsame (.inr rfl)⟩

end HttpGateway.Retry
