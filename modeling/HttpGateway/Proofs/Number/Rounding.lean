/-
Rounding once more.

* `floorLog2_bounds` — the exponent found for a number is that of the power of
  two below it.
* `round_onGrid` — a number that is a whole number of steps of the grid on which it is rounded, and
  is not too large, is left as it is.
* `convert_round` — a rounded number is left as it is.

The digits that are left after rounding are at most as many as the format has, but rounding up can
make one more: then the number is the next power of two, which is on the coarser grid as well.
-/
import HttpGateway.Number.Floating
import Mathlib.Algebra.Order.Floor.Ring
import Mathlib.Data.Rat.Floor
import Mathlib.Tactic.Linarith
import Mathlib.Tactic.FieldSimp
import Mathlib.Tactic.Positivity

namespace HttpGateway.Number

variable {q v : Rat} {k e : Int} {n : Int} {f : FloatFormat}

theorem pow2_eq_zpow (e : Int) : pow2 e = (2 : Rat) ^ e := by
  unfold pow2
  split
  · next h =>
    obtain ⟨n, rfl⟩ := Int.eq_ofNat_of_zero_le h
    simp [Rat.mkRat_one]
  · next h =>
    obtain ⟨n, hn⟩ := Int.eq_ofNat_of_zero_le (Int.neg_nonneg.mpr (Int.le_of_not_le h))
    obtain rfl : e = -n := by omega
    simp [Rat.mkRat_eq_div]

theorem magnitude_eq_abs (q : Rat) : magnitude q = |q| := by
  unfold magnitude
  split
  · next h => exact (abs_of_neg h).symm
  · next h => exact (abs_of_nonneg (not_lt.mp h)).symm

/-! ### The power of two below a number -/

/-- The quotient of the powers of two below numerator and denominator misses by one at most. -/
theorem zpow_log2_bounds (hq : 0 < q) :
    (2 : Rat) ^ ((q.num.natAbs.log2 : Int) - q.den.log2 - 1) ≤ q ∧
      q < 2 ^ ((q.num.natAbs.log2 : Int) - q.den.log2 + 1) := by
  have hnum : 0 < q.num := Rat.num_pos.mpr hq
  obtain ⟨a, ha⟩ := Int.eq_ofNat_of_zero_le hnum.le
  have ha' : q.num.natAbs = a := by omega
  have hq' : q = a / q.den := by
    rw [← Int.cast_natCast, ← ha]
    exact (Rat.num_div_den q).symm
  have hden : (0 : Rat) < q.den := by exact_mod_cast q.den_pos
  have haLow : (2 : Rat) ^ a.log2 ≤ a := by exact_mod_cast Nat.log2_self_le (by omega)
  have haHigh : (a : Rat) < 2 ^ (a.log2 + 1) := by exact_mod_cast Nat.lt_log2_self
  have hdLow : (2 : Rat) ^ q.den.log2 ≤ q.den := by
    exact_mod_cast Nat.log2_self_le q.den_nz
  have hdHigh : (q.den : Rat) < 2 ^ (q.den.log2 + 1) := by exact_mod_cast Nat.lt_log2_self
  rw [ha']
  constructor
  · calc (2 : Rat) ^ ((a.log2 : Int) - q.den.log2 - 1)
        = 2 ^ a.log2 / 2 ^ (q.den.log2 + 1) := by
          rw [sub_sub, zpow_sub₀ two_ne_zero]
          norm_cast
      _ ≤ a / q.den := div_le_div₀ (by positivity) haLow hden hdHigh.le
      _ = q := hq'.symm
  · calc q = a / q.den := hq'
      _ < 2 ^ (a.log2 + 1) / 2 ^ q.den.log2 := div_lt_div₀ haHigh hdLow (by positivity) (by positivity)
      _ = 2 ^ ((a.log2 : Int) - q.den.log2 + 1) := by
          rw [sub_add_eq_add_sub, zpow_sub₀ two_ne_zero]
          norm_cast

/-- The exponent that is found is the one of the power of two below the number. -/
theorem floorLog2_bounds (hq : 0 < q) :
    (2 : Rat) ^ floorLog2 q ≤ q ∧ q < 2 ^ (floorLog2 q + 1) := by
  obtain ⟨hlow, hhigh⟩ := zpow_log2_bounds hq
  unfold floorLog2
  simp only [pow2_eq_zpow]
  split
  · next h => exact ⟨hlow, by rwa [sub_add_cancel]⟩
  · next h => exact ⟨not_lt.mp h, hhigh⟩

theorem floorLog2_lt (hq : 0 < q) (h : q < 2 ^ e) : floorLog2 q < e :=
  (zpow_lt_zpow_iff_right₀ one_lt_two).mp ((floorLog2_bounds hq).1.trans_lt h)

theorem floorLog2_zpow (e : Int) : floorLog2 ((2 : Rat) ^ e) = e := by
  have hpos : (0 : Rat) < 2 ^ e := zpow_pos two_pos e
  have hle : e < floorLog2 ((2 : Rat) ^ e) + 1 :=
    (zpow_lt_zpow_iff_right₀ one_lt_two).mp (floorLog2_bounds hpos).2
  have hge : floorLog2 ((2 : Rat) ^ e) ≤ e :=
    (zpow_le_zpow_iff_right₀ one_lt_two).mp (floorLog2_bounds hpos).1
  omega

/-! ### The nearest whole number -/

@[simp] theorem roundHalfEven_intCast (n : Int) : roundHalfEven n = n := by
  have hfloor : (n : Rat).floor = n := Rat.floor_intCast n
  have hhalf : (0 : Rat) < mkRat 1 2 := by decide +kernel
  unfold roundHalfEven
  simp only [hfloor, sub_self, if_pos hhalf]

theorem roundHalfEven_cases (q : Rat) :
    roundHalfEven q = q.floor ∨ roundHalfEven q = q.floor + 1 := by
  unfold roundHalfEven
  dsimp only
  split
  · exact .inl rfl
  split
  · exact .inr rfl
  split
  · exact .inl rfl
  · exact .inr rfl

/-- What lies below a whole number in magnitude is rounded to it at most. -/
theorem abs_roundHalfEven_le (h : |q| < n) : |roundHalfEven q| ≤ n := by
  obtain ⟨hlow, hhigh⟩ := abs_lt.mp h
  have hfloorLow : -n ≤ q.floor := Rat.le_floor_iff.mpr (by push_cast; exact hlow.le)
  have hfloorHigh : q.floor < n := Rat.floor_lt_iff.mpr hhigh
  rw [abs_le]
  rcases roundHalfEven_cases q with hround | hround <;> omega

/-! ### Rounding to a format -/

namespace FloatFormat

/-- A whole number of steps of the grid on which it is rounded stays what it is, unless it is too
large. -/
theorem round_onGrid (hv : v ≠ 0) (hgrid : v / 2 ^ f.exponentFor |v| = n)
    (hsmall : |v| < 2 ^ (f.precision + f.maxExponent)) : f.round v = .finite v := by
  have hsteps : (roundHalfEven (v / 2 ^ f.exponentFor |v|) : Rat) * 2 ^ f.exponentFor |v| = v := by
    rw [hgrid, roundHalfEven_intCast, ← hgrid]
    exact div_mul_cancel₀ v (zpow_ne_zero _ two_ne_zero)
  unfold round
  simp only [magnitude_eq_abs, pow2_eq_zpow, hsteps, if_neg hv, if_neg (not_le.mpr hsmall)]

/-- What a number is rounded to is on the grid on which that itself is rounded. -/
theorem rounded_onGrid (hprecision : 0 < f.precision) (hq : q ≠ 0) :
    let v := (roundHalfEven (q / 2 ^ f.exponentFor |q|) : Rat) * 2 ^ f.exponentFor |q|
    v ≠ 0 → ∃ n : Int, v / 2 ^ f.exponentFor |v| = n := by
  intro v hv
  set e := f.exponentFor |q| with he
  set m := roundHalfEven (q / 2 ^ e) with hm
  have hpos : (0 : Rat) < 2 ^ e := zpow_pos two_pos e
  -- The significand has as many digits as the format, or is the next power of two.
  have hdigits : |q| < 2 ^ (e + f.precision) := by
    refine (floorLog2_bounds (abs_pos.mpr hq)).2.trans_le ?_
    refine zpow_le_zpow_right₀ one_le_two ?_
    simp only [exponentFor] at he
    omega
  have hquotient : |q / 2 ^ e| < ((2 ^ f.precision : Int) : Rat) := by
    rw [abs_div, abs_of_pos hpos, div_lt_iff₀ hpos]
    rw [zpow_add₀ two_ne_zero] at hdigits
    push_cast
    rw [mul_comm]
    exact_mod_cast hdigits
  have hle : |m| ≤ 2 ^ f.precision := abs_roundHalfEven_le hquotient
  have habs : |v| = |(m : Rat)| * 2 ^ e := by rw [abs_mul, abs_of_pos hpos]
  have hstep : ∀ e', v / 2 ^ e' = m * 2 ^ (e - e') := fun e' => by
    rw [zpow_sub₀ two_ne_zero, mul_div_assoc]
  rcases hle.lt_or_eq with hlt | heq
  · -- The grid of the result is at most as coarse, so that its steps divide the old ones.
    have hvlt : |v| < 2 ^ (e + f.precision) := by
      rw [habs, zpow_add₀ two_ne_zero, mul_comm]
      refine mul_lt_mul_of_pos_left ?_ hpos
      exact_mod_cast hlt
    have hfine : f.exponentFor |v| ≤ e := by
      have := floorLog2_lt (abs_pos.mpr hv) hvlt
      simp only [exponentFor] at he ⊢
      omega
    obtain ⟨j, hj⟩ := Int.eq_ofNat_of_zero_le (sub_nonneg.mpr hfine)
    exact ⟨m * 2 ^ j, by rw [hstep, hj]; push_cast; rfl⟩
  · -- One digit more: a power of two, of which half the old steps are left.
    have hvpow : |v| = 2 ^ (e + f.precision) := by
      rw [habs, zpow_add₀ two_ne_zero, mul_comm]
      congr 1
      exact_mod_cast heq
    have hcoarse : f.exponentFor |v| = e + 1 := by
      rw [hvpow]
      simp only [exponentFor, floorLog2_zpow] at he ⊢
      omega
    obtain ⟨d, hd⟩ : ∃ d, f.precision = d + 1 := ⟨f.precision - 1, by omega⟩
    have hpower : m = 2 ^ f.precision ∨ m = -2 ^ f.precision := (abs_eq (by positivity)).mp heq
    refine hpower.elim (fun hm' => ⟨2 ^ d, ?_⟩) fun hm' => ⟨-2 ^ d, ?_⟩ <;>
    · rw [hstep, hcoarse, hm', hd, sub_add_cancel_left]
      push_cast
      rw [zpow_neg_one, pow_succ]
      field_simp

/-- **A rounded number is left as it is** by rounding to the same format. -/
theorem convert_round (hprecision : 0 < f.precision) (q : Rat) :
    (f.round q).convert f = f.round q := by
  by_cases hq : q = 0
  · subst hq
    rfl
  have hround := rounded_onGrid hprecision hq
  rw [round, if_neg hq]
  simp only [magnitude_eq_abs, pow2_eq_zpow] at hround ⊢
  split
  · rfl
  · next hlarge =>
    split
    · split <;> rfl
    · next hv =>
      obtain ⟨n, hn⟩ := hround hv
      exact round_onGrid hv hn (not_le.mp hlarge)

end FloatFormat

/-- A number that has been brought into a format has it. -/
theorem Floating.convert_convert (hprecision : 0 < f.precision) (x : Floating) :
    (x.convert f).convert f = x.convert f := by
  cases x with
  | finite q => exact FloatFormat.convert_round hprecision q
  | _ => rfl

end HttpGateway.Number
