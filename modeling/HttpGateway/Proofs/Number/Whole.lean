/-
Whole numbers in the 64-bit format.

* **Floating.Reaches** — a number is infinite, or at least a given one.
* **Floating.Shows** — a floating-point number stands for a whole one. Below `2 ^ 53` it is that
  number; from there on all that is known of it is that it is not below `2 ^ 53` either.
* `shows_round`, `Shows.add`, `Shows.mul` — so it is with what is rounded, with sums and with
  products.
* `Shows.minNum` — the smaller one of such a number and one below `2 ^ 53` is exact again, however
  large the other one was.

What is rounded does no harm where the numbers are large, as long as a smaller one is taken for them
in the end.
-/
import HttpGateway.Proofs.Number.Rounding

namespace HttpGateway.Number

namespace Floating

/-- Infinite, or at least `q`. -/
inductive Reaches (q : Rat) : Floating → Prop
  | infinity : Reaches q (.infinity false)
  | finite {p : Rat} (h : q ≤ p) : Reaches q (.finite p)

/-- A whole number in the 64-bit format: exact below `2 ^ 53`, and from there on anything there. -/
inductive Shows (n : Nat) : Floating → Prop
  | exact (h : n < 2 ^ 53) : Shows n (.finite n)
  | beyond {x : Floating} (h : 2 ^ 53 ≤ n) (hx : Reaches (2 ^ 53) x) : Shows n x

end Floating

open Floating

variable {q : Rat} {m n : Nat} {x y : Floating}

/-! ### Rounding -/

/-- A whole number of 53 binary digits is left as it is. -/
theorem round_natCast (h : n < 2 ^ 53) : FloatFormat.double.round n = .finite n := by
  rcases Nat.eq_zero_or_pos n with rfl | hpos
  · rfl
  have hq : (0 : Rat) < n := by exact_mod_cast hpos
  have hlt : (n : Rat) < 2 ^ (53 : Int) := by exact_mod_cast h
  have hexponent : FloatFormat.double.exponentFor |(n : Rat)| ≤ 0 := by
    have hdigits := floorLog2_lt hq hlt
    rw [abs_of_pos hq]
    simp only [FloatFormat.exponentFor, FloatFormat.double]
    omega
  obtain ⟨j, hj⟩ := Int.eq_ofNat_of_zero_le (neg_nonneg.mpr hexponent)
  refine FloatFormat.round_onGrid (n := (n : Int) * 2 ^ j) hq.ne' ?_ ?_
  · rw [div_eq_mul_inv, ← zpow_neg, hj]
    push_cast
    rfl
  · rw [abs_of_pos hq]
    exact hlt.trans (zpow_lt_zpow_right₀ one_lt_two (by decide))

/-- What is not below `2 ^ 53` is not rounded to something below it. -/
theorem round_reaches (h : 2 ^ 53 ≤ q) : Reaches (2 ^ 53) (FloatFormat.double.round q) := by
  have hq : 0 < q := lt_of_lt_of_le (by norm_num) h
  obtain ⟨hlow, hhigh⟩ := floorLog2_bounds hq
  have hdigits : 53 ≤ floorLog2 q := by
    have hlt : (2 : Rat) ^ (53 : Int) < 2 ^ (floorLog2 q + 1) :=
      lt_of_le_of_lt (by exact_mod_cast h) hhigh
    have := (zpow_lt_zpow_iff_right₀ one_lt_two).mp hlt
    omega
  set e := FloatFormat.double.exponentFor |q| with he
  have hexponent : floorLog2 q = 52 + e := by
    rw [he, abs_of_pos hq]
    simp only [FloatFormat.exponentFor, FloatFormat.double]
    omega
  have hpos : (0 : Rat) < 2 ^ e := zpow_pos two_pos e
  -- There are at least `2 ^ 52` steps of the grid.
  have hsteps : (2 ^ 52 : Int) ≤ roundHalfEven (q / 2 ^ e) := by
    have hfloor : (2 ^ 52 : Int) ≤ (q / 2 ^ e).floor := by
      rw [Rat.le_floor_iff, le_div_iff₀ hpos]
      refine le_trans (le_of_eq ?_) hlow
      rw [hexponent, zpow_add₀ two_ne_zero]
      norm_num
    rcases roundHalfEven_cases (q / 2 ^ e) with hround | hround <;> omega
  have hvalue : (2 : Rat) ^ 53 ≤ (roundHalfEven (q / 2 ^ e) : Rat) * 2 ^ e := by
    calc (2 : Rat) ^ 53 = 2 ^ (53 : Int) := by norm_num
      _ ≤ 2 ^ floorLog2 q := zpow_le_zpow_right₀ one_le_two hdigits
      _ = ((2 ^ 52 : Int) : Rat) * 2 ^ e := by rw [hexponent, zpow_add₀ two_ne_zero]; norm_num
      _ ≤ roundHalfEven (q / 2 ^ e) * 2 ^ e :=
        mul_le_mul_of_nonneg_right (by exact_mod_cast hsteps) hpos.le
  have hne : (roundHalfEven (q / 2 ^ e) : Rat) * 2 ^ e ≠ 0 :=
    (lt_of_lt_of_le (by norm_num) hvalue).ne'
  unfold FloatFormat.round
  simp only [magnitude_eq_abs, pow2_eq_zpow, if_neg hq.ne', ← he, if_neg hne, not_lt.mpr hq.le,
    decide_false]
  split
  · exact .infinity
  · exact .finite hvalue

theorem shows_round (n : Nat) : Shows n (FloatFormat.double.round n) := by
  by_cases h : n < 2 ^ 53
  · rw [round_natCast h]
    exact .exact h
  · exact .beyond (Nat.le_of_not_lt h) (round_reaches (by exact_mod_cast Nat.le_of_not_lt h))

/-! ### Arithmetic -/

namespace Floating

theorem Shows.reaches (h : Shows n x) : Reaches 0 x := by
  cases h with
  | exact => exact .finite (Nat.cast_nonneg n)
  | beyond _ hx =>
    cases hx with
    | infinity => exact .infinity
    | finite hp => exact .finite (le_trans (by norm_num) hp)

theorem Reaches.add {p : Rat} (hx : Reaches p x) (hy : Reaches q y) (h : 2 ^ 53 ≤ p + q) :
    Reaches (2 ^ 53) (x.add .double y) := by
  cases hx with
  | infinity => cases hy <;> exact .infinity
  | finite hp =>
    cases hy with
    | infinity => exact .infinity
    | finite hq => exact round_reaches (h.trans (add_le_add hp hq))

theorem Shows.add (hx : Shows m x) (hy : Shows n y) : Shows (m + n) (x.add .double y) := by
  cases hx with
  | exact hm =>
    cases hy with
    | exact hn =>
      rw [Floating.add, ← Nat.cast_add]
      exact shows_round (m + n)
    | beyond hn hy =>
      refine .beyond (by omega) (Reaches.add (.finite le_rfl) hy ?_)
      exact le_add_of_nonneg_left (Nat.cast_nonneg m)
  | beyond hm hx =>
    exact .beyond (by omega) (hx.add hy.reaches (by rw [add_zero]))

/-- A product of finite numbers is rounded as one, also where one of them is zero. -/
theorem mul_finite {p : Rat} (hp : 0 ≤ p) (hq : 0 < q) :
    (finite p).mul .double (.finite q) = FloatFormat.double.round (p * q) := by
  simp only [Floating.mul, isNegative, isZero, value, not_lt.mpr hp, not_lt.mpr hq.le, hq.ne',
    decide_false, Bool.or_false, decide_eq_true_eq]
  split
  · next hzero =>
    rw [hzero, zero_mul]
    rfl
  · rfl

/-- A product of whole numbers; a large one is not made smaller. -/
theorem Shows.mul (hx : Shows m x) (hpos : 0 < n) :
    Shows (m * n) (x.mul .double (.finite n)) := by
  have hq : (1 : Rat) ≤ n := by exact_mod_cast hpos
  have hq0 : (0 : Rat) < n := one_pos.trans_le hq
  cases hx with
  | exact hm =>
    rw [mul_finite (Nat.cast_nonneg m) hq0, ← Nat.cast_mul]
    exact shows_round (m * n)
  | beyond hm hx =>
    refine .beyond (hm.trans (Nat.le_mul_of_pos_right m hpos)) ?_
    cases hx with
    | infinity =>
      simp only [Floating.mul, isNegative, isZero, hq0.ne', not_lt.mpr hq0.le, decide_false,
        Bool.false_eq_true, if_false]
      exact .infinity
    | @finite p hp =>
      have hp0 : 0 ≤ p := le_trans (by norm_num) hp
      rw [mul_finite hp0 hq0]
      exact round_reaches (hp.trans (le_mul_of_one_le_right hp0 hq))

/-- The smaller one of two whole numbers is exact if one of them is below `2 ^ 53`. -/
theorem Shows.minNum (hx : Shows m x) (hn : n < 2 ^ 53) :
    x.minNum (.finite n) = .finite (min m n : Nat) := by
  cases hx with
  | exact hm =>
    simp only [Floating.minNum, Floating.le, value, reduceCtorEq, if_false, decide_eq_true_eq,
      Nat.cast_le]
    split
    · next h => rw [Nat.min_eq_right h]
    · next h => rw [Nat.min_eq_left (Nat.le_of_not_le h)]
  | beyond hm hx =>
    rw [Nat.min_eq_right (hn.le.trans hm)]
    cases hx with
    | infinity => rfl
    | @finite p hp =>
      have hle : (n : Rat) ≤ p := le_trans (by exact_mod_cast hn.le) hp
      simp [Floating.minNum, Floating.le, value, hle]

theorem sub_one_natCast (hn : n + 1 < 2 ^ 53) :
    (finite (n + 1 : Nat)).sub .double .one = .finite n := by
  have hone : one.neg = .finite (-1) := rfl
  rw [Floating.sub, hone, Floating.add, Nat.cast_add, Nat.cast_one, add_neg_cancel_right]
  exact round_natCast (Nat.lt_of_succ_lt hn)

@[simp] theorem one_le_natCast : one.le (.finite n) = decide (1 ≤ n) := by
  simp [Floating.le, one, value]

end Floating

end HttpGateway.Number
