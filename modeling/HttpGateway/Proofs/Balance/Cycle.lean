/-
What turns by weight come to over many choices.

* **block** — the levels from the top down, and at each of them all positions whose weights reach
  it. `count_block` says how often a position is in it, and `length_block` how long it is.
* **Rotation.At** — how many positions a rotation has looked at since it was started. `At.look` is
  the step from one look to the next, and `At.wrap` closes the cycle.
* **Rotation.Due** — how much of the block a rotation has picked. `Due.next` says that the next turn
  is the next position of the block, and that after the last one the block begins again.
* `turns_repeat_block` — so the turns of one key repeat the block for ever, whatever is chosen under
  other keys; within the length of a block each position has its share, and no search for a turn
  looks at more positions than there are.

A search is described by the looks that are left in a cycle. It takes some off the front, up to the
first look that picks; as the last look of a cycle always picks, no search goes beyond it.
-/
import HttpGateway.Proofs.Balance.Groups
import Mathlib.Data.List.Rotate
import Mathlib.Algebra.BigOperators.Fin
import Mathlib.Algebra.BigOperators.Ring.Finset

namespace HttpGateway.Balance

/-! ### Blocks -/

/-- The largest of some weights and the greatest common divisor of them all. -/
structure Graded (weights : List Nat) (top step : Nat) : Prop where
  positive : ∀ w ∈ weights, 1 ≤ w
  top_mem : top ∈ weights
  le_top : ∀ w ∈ weights, w ≤ top
  dvd_step : ∀ d, d ∣ step ↔ ∀ w ∈ weights, d ∣ w

/-- The levels from the top down. -/
def levels (top step : Nat) : List Nat := (List.range (top / step)).map fun j => top - step * j

/-- The positions whose weights reach a level, in their order. -/
def reaching (weights : List Nat) (level : Nat) : List Nat :=
  (List.range weights.length).filter fun i => level ≤ weights[i]?.getD 0

/-- The positions whose weights reach the levels, one level after another. -/
def block (weights : List Nat) (top step : Nat) : List Nat :=
  (levels top step).flatMap (reaching weights)

variable {weights : List Nat} {top step i j w : Nat}

theorem lt_of_mem_block (h : i ∈ block weights top step) : i < weights.length := by
  obtain ⟨level, -, hi⟩ := List.mem_flatMap.mp h
  exact List.mem_range.mp (List.mem_of_mem_filter hi)

theorem count_reaching (level : Nat) (h : weights[i]? = some w) :
    (reaching weights level).count i = if level ≤ w then 1 else 0 := by
  have hi : i < weights.length := (List.getElem?_eq_some_iff.mp h).1
  have hrange : (List.range weights.length).count i = 1 :=
    List.count_eq_one_of_mem List.nodup_range (List.mem_range.mpr hi)
  by_cases hlevel : level ≤ w
  · rw [if_pos hlevel, reaching, List.count_filter (by simpa [h] using hlevel), hrange]
  · rw [if_neg hlevel, List.count_eq_zero]
    intro hmem
    simp [reaching, h, hlevel] at hmem

theorem sum_range_ge (a n : Nat) :
    ((List.range n).map fun j => if a ≤ j then 1 else 0).sum = n - a := by
  induction n with
  | zero => simp
  | succ n ih =>
    rw [List.range_succ, List.map_append, List.sum_append, ih]
    simp only [List.map_cons, List.map_nil, List.sum_singleton]
    split <;> omega

/-- A position is in the block once for each level up to its weight. -/
theorem count_block (hstep : 0 < step) (htop : step ∣ top) (h : weights[i]? = some w)
    (hw : step ∣ w) (hle : w ≤ top) : (block weights top step).count i * step = w := by
  obtain ⟨m, rfl⟩ := htop
  obtain ⟨q, rfl⟩ := hw
  have hq : q ≤ m := Nat.le_of_mul_le_mul_left hle hstep
  have hreach (j : Nat) : step * m - step * j ≤ step * q ↔ m - q ≤ j := by
    rw [← Nat.mul_sub, Nat.mul_le_mul_left_iff hstep]
    omega
  have hcount : (block weights (step * m) step).count i = q := by
    calc (block weights (step * m) step).count i
        = ((levels (step * m) step).map fun level => if level ≤ step * q then 1 else 0).sum := by
          rw [block, List.count_flatMap]
          exact congrArg List.sum (List.map_congr_left fun level _ => count_reaching level h)
      _ = ((List.range m).map fun j => if m - q ≤ j then 1 else 0).sum := by
          rw [levels, Nat.mul_div_cancel_left m hstep, List.map_map]
          simp only [Function.comp_def, hreach]
      _ = q := by
          rw [sum_range_ge]
          omega
  rw [hcount, Nat.mul_comm]

/-- A block is as long as the weights are together, in units of the step. -/
theorem length_block (hstep : 0 < step) (htop : step ∣ top)
    (h : ∀ w ∈ weights, step ∣ w ∧ w ≤ top) :
    (block weights top step).length * step = weights.sum := by
  have hmem : ∀ i ∈ (block weights top step : Multiset Nat), i ∈ Finset.range weights.length :=
    fun i hi => Finset.mem_range.mpr (lt_of_mem_block (Multiset.mem_coe.mp hi))
  have hlength : ∑ i ∈ Finset.range weights.length, (block weights top step).count i
      = (block weights top step).length := by
    simpa only [Multiset.coe_count, Multiset.coe_card] using Multiset.sum_count_eq_card hmem
  rw [← hlength, Finset.sum_mul, Finset.sum_range, ← Fin.sum_univ_getElem]
  refine Finset.sum_congr rfl fun i _ => ?_
  obtain ⟨hw, hle⟩ := h _ (List.getElem_mem i.isLt)
  exact count_block hstep htop (List.getElem?_eq_getElem i.isLt) hw hle

namespace Graded

theorem step_dvd (h : Graded weights top step) (hw : w ∈ weights) : step ∣ w :=
  (h.dvd_step step).mp dvd_rfl w hw

theorem step_pos (h : Graded weights top step) : 0 < step :=
  Nat.pos_of_dvd_of_pos (h.step_dvd h.top_mem) (h.positive top h.top_mem)

theorem step_le (h : Graded weights top step) (hw : w ∈ weights) : step ≤ w :=
  Nat.le_of_dvd (h.positive w hw) (h.step_dvd hw)

theorem length_pos (h : Graded weights top step) : 0 < weights.length :=
  List.length_pos_of_mem h.top_mem

/-- There is one level for each multiple of the step up to the top. -/
theorem top_eq (h : Graded weights top step) : top = step * (top / step) :=
  (Nat.mul_div_cancel' (h.step_dvd h.top_mem)).symm

theorem levels_pos (h : Graded weights top step) : 0 < top / step :=
  Nat.div_pos (h.step_le h.top_mem) h.step_pos

theorem rotation_top (h : Graded weights top step) : (Rotation.start weights).top = top := by
  have hmax : weights.max? = some top := List.max?_eq_some_iff.mpr ⟨h.top_mem, h.le_top⟩
  have hpos := h.positive top h.top_mem
  show max (weights.foldl max 0) 1 = top
  rw [List.foldl_max, hmax]
  simp
  omega

theorem dvd_foldl_gcd (d a : Nat) (weights : List Nat) :
    d ∣ weights.foldl Nat.gcd a ↔ d ∣ a ∧ ∀ w ∈ weights, d ∣ w := by
  induction weights generalizing a with
  | nil => simp
  | cons w rest ih => rw [List.foldl_cons, ih, Nat.dvd_gcd_iff, List.forall_mem_cons, and_assoc]

theorem rotation_step (h : Graded weights top step) : (Rotation.start weights).step = step := by
  have hgcd : weights.foldl Nat.gcd 0 = step := Nat.dvd_antisymm
    ((h.dvd_step _).mpr ((dvd_foldl_gcd _ 0 weights).mp dvd_rfl).2)
    ((dvd_foldl_gcd _ 0 weights).mpr ⟨dvd_zero _, (h.dvd_step _).mp dvd_rfl⟩)
  show max (weights.foldl Nat.gcd 0) 1 = step
  rw [hgcd]
  exact Nat.max_eq_left h.step_pos

end Graded

/-! ### Looks -/

namespace Rotation

section

variable (weights : List Nat) (top step : Nat)

/-- The level of a look, counted from the start. It falls with each round. -/
def levelAt (t : Nat) : Nat := top - step * (t / weights.length % (top / step))

/-- Whether a look picks its position. -/
def PicksAt (t : Nat) : Prop := levelAt weights top step t ≤ weights[t % weights.length]?.getD 0

instance : DecidablePred (PicksAt weights top step) := fun _ => Nat.decLe _ _

/-- The number of looks after which all begins again. -/
def cycle : Nat := weights.length * (top / step)

/-- What the looks pick that are left in a cycle. -/
def ahead (t : Nat) : List Nat :=
  ((List.range' t (cycle weights top step - t)).filter (PicksAt weights top step ·)).map
    (· % weights.length)

/-- A rotation has made some looks, and its next one is known by their number. -/
structure At (r : Rotation) (t : Nat) : Prop where
  weights_eq : r.weights = weights
  look_eq : r.look = ⟨weights, some (t % weights.length), levelAt weights top step t⟩
  level_le : r.level ≤ top

end

variable {r s : Rotation} {t : Nat}

/-- The level falls when a round is over, and goes back to the top from the lowest one. -/
theorem levelAt_succ (hg : Graded weights top step) (t : Nat) :
    levelAt weights top step (t + 1)
      = if (t + 1) % weights.length = 0 then
          if levelAt weights top step t - step = 0 then top
          else levelAt weights top step t - step
        else levelAt weights top step t := by
  by_cases hround : (t + 1) % weights.length = 0
  · have hdiv : (t + 1) / weights.length = t / weights.length + 1 := by
      rw [Nat.succ_div, if_pos (Nat.dvd_of_mod_eq_zero hround)]
    have hstep := hg.step_pos
    have htop := hg.top_eq
    have hj : t / weights.length % (top / step) < top / step := Nat.mod_lt _ hg.levels_pos
    rw [if_pos hround, levelAt, levelAt, hdiv, ← Nat.mod_add_mod]
    generalize top / step = m at *
    generalize t / weights.length % m = j at *
    -- There are `n` levels below the one that is left.
    obtain ⟨n, rfl⟩ := Nat.exists_eq_add_of_lt hj
    have hfall (a : Nat) : top - step * (j + a) = step * (n + 1 - a) := by
      rw [htop, ← Nat.mul_sub]
      congr 1
      omega
    have hleft : top - step * j - step = step * n := by
      rw [← Nat.add_zero j, hfall, ← Nat.mul_sub_one]
      rfl
    rw [hleft]
    cases n with
    | zero => simp
    | succ n =>
      rw [if_neg (Nat.mul_ne_zero hstep.ne' n.succ_ne_zero), Nat.mod_eq_of_lt (by omega), hfall]
      rfl
  · have hdiv : (t + 1) / weights.length = t / weights.length := by
      rw [Nat.succ_div, if_neg fun h => hround (Nat.mod_eq_zero_of_dvd h)]
      rfl
    rw [if_neg hround, levelAt, levelAt, hdiv]

theorem start_at (hg : Graded weights top step) : At weights top step (start weights) 0 := by
  refine ⟨rfl, ?_, Nat.zero_le _⟩
  have htop := hg.rotation_top
  show (⟨weights, some 0, (start weights).nextLevel⟩ : Rotation) = _
  have hlevel : (start weights).nextLevel = top := by
    rw [nextLevel]
    exact (if_pos (Nat.zero_sub _)).trans htop
  rw [hlevel, levelAt, Nat.zero_mod, Nat.zero_div, Nat.zero_mod, Nat.mul_zero, Nat.sub_zero]

theorem At.top_eq (h : At weights top step r t) (hg : Graded weights top step) : r.top = top := by
  rw [← hg.rotation_top, ← h.weights_eq]
  rfl

/-- One more look. -/
theorem At.look (h : At weights top step r t) (hg : Graded weights top step) :
    At weights top step r.look (t + 1) := by
  have hlook := h.look_eq
  have htop := h.top_eq hg
  refine ⟨h.weights_eq, ?_, ?_⟩
  · have hposition : r.look.nextPosition = (t + 1) % weights.length := by
      rw [hlook]
      exact Nat.mod_add_mod ..
    have hlevel : r.look.nextLevel
        = if levelAt weights top step t - step = 0 then top
          else levelAt weights top step t - step := by
      rw [hlook, ← hg.rotation_top, ← hg.rotation_step]
      rfl
    have hlast : r.look.level = levelAt weights top step t := by rw [hlook]
    rw [Rotation.look, hposition, hlevel, hlast, ← levelAt_succ hg]
    exact congrArg (Rotation.mk · _ _) h.weights_eq
  · exact htop ▸ level_look (htop ▸ h.level_le)

/-- After a whole cycle all is as it was at the start. -/
theorem At.wrap (h : At weights top step r (cycle weights top step))
    (hg : Graded weights top step) : At weights top step r 0 := by
  refine ⟨h.weights_eq, ?_, h.level_le⟩
  rw [h.look_eq, levelAt, levelAt, cycle, Nat.mul_mod_right,
    Nat.mul_div_cancel_left _ hg.length_pos, Nat.mod_self, Nat.zero_div, Nat.zero_mod, Nat.zero_mod]

theorem At.picks_iff (h : At weights top step r t) :
    r.look.picks = true ↔ PicksAt weights top step t := by
  rw [h.look_eq]
  exact decide_eq_true_iff

/-- The last look of a cycle picks, for every weight reaches the lowest level. -/
theorem picksAt_last (hg : Graded weights top step) (ht : t + 1 = cycle weights top step) :
    PicksAt weights top step t := by
  have hk := hg.length_pos
  have hm := hg.levels_pos
  have htop := hg.top_eq
  have hi : t % weights.length < weights.length := Nat.mod_lt _ hk
  have hround : t / weights.length = top / step - 1 := by
    obtain ⟨n, hn⟩ := Nat.exists_eq_add_one.mpr hm
    rw [cycle, hn, Nat.mul_succ] at ht
    have hsplit : t = weights.length * n + (weights.length - 1) := by omega
    rw [hn, hsplit, Nat.mul_add_div hk, Nat.div_eq_of_lt (Nat.sub_one_lt hk.ne')]
    rfl
  have hlevel : levelAt weights top step t = step := by
    rw [levelAt, hround, Nat.mod_eq_of_lt (by omega)]
    generalize top / step = m at *
    rw [htop, ← Nat.mul_sub, Nat.sub_sub_self hm, Nat.mul_one]
  rw [PicksAt, hlevel, List.getElem?_eq_getElem hi, Option.getD_some]
  exact hg.step_le (List.getElem_mem hi)

theorem ahead_cycle : ahead weights top step (cycle weights top step) = [] := by
  simp [ahead]

theorem ahead_eq (ht : t < cycle weights top step) :
    ahead weights top step t
      = if PicksAt weights top step t then
          t % weights.length :: ahead weights top step (t + 1)
        else ahead weights top step (t + 1) := by
  obtain ⟨n, hn⟩ := Nat.exists_eq_add_of_lt ht
  have hleft : cycle weights top step - t = n + 1 := by omega
  have hleft' : cycle weights top step - (t + 1) = n := by omega
  rw [ahead, ahead, hleft, hleft', List.range'_succ, List.filter_cons]
  by_cases hpicks : PicksAt weights top step t
  · rw [if_pos (decide_eq_true hpicks), if_pos hpicks, List.map_cons]
  · rw [if_neg (by simpa using hpicks), if_neg hpicks]

theorem ahead_ne_nil (hg : Graded weights top step) (ht : t < cycle weights top step) :
    ahead weights top step t ≠ [] := by
  obtain ⟨u, hu⟩ := Nat.exists_eq_add_one.mpr (Nat.zero_lt_of_lt ht)
  have hmem : u ∈ List.range' t (cycle weights top step - t) := by
    rw [List.mem_range'_1]
    omega
  have hpicks := picksAt_last hg hu.symm
  exact List.ne_nil_of_mem
    (List.mem_map_of_mem (List.mem_filter.mpr ⟨hmem, decide_eq_true hpicks⟩))

/-- What some rounds from the start pick: each is at one level, and looks at all positions. -/
theorem picked_in_rounds (hg : Graded weights top step) {m : Nat} (hm : m ≤ top / step) :
    ((List.range (weights.length * m)).filter (PicksAt weights top step ·)).map (· % weights.length)
      = ((List.range m).map fun j => top - step * j).flatMap (reaching weights) := by
  induction m with
  | zero => simp
  | succ m ih =>
    rw [Nat.mul_succ, List.range_add, List.filter_append, List.map_append, ih (by omega),
      List.range_succ, List.map_append, List.flatMap_append, List.filter_map, List.map_map]
    congr 1
    rw [List.map_cons, List.map_nil, List.flatMap_singleton, reaching]
    have hposition : ∀ i ∈ List.range weights.length,
        (weights.length * m + i) % weights.length = i := fun i hi => by
      rw [Nat.mul_add_mod, Nat.mod_eq_of_lt (List.mem_range.mp hi)]
    have hlevel : ∀ i ∈ List.range weights.length,
        levelAt weights top step (weights.length * m + i) = top - step * m := fun i hi => by
      rw [levelAt, Nat.mul_add_div hg.length_pos, Nat.div_eq_of_lt (List.mem_range.mp hi),
        Nat.add_zero, Nat.mod_eq_of_lt (by omega)]
    have hpicks : (List.range weights.length).filter
          ((PicksAt weights top step ·) ∘ (weights.length * m + ·))
        = (List.range weights.length).filter fun i => top - step * m ≤ weights[i]?.getD 0 := by
      refine List.filter_congr fun i hi => ?_
      simp only [Function.comp_apply, PicksAt, hposition i hi, hlevel i hi]
    rw [hpicks]
    refine (List.map_congr_left fun i hi => ?_).trans (List.map_id _)
    exact hposition i (List.mem_of_mem_filter hi)

/-- A whole cycle picks the block. -/
theorem ahead_zero (hg : Graded weights top step) :
    ahead weights top step 0 = block weights top step := by
  rw [ahead, Nat.sub_zero, ← List.range_eq_range']
  exact picked_in_rounds hg le_rfl

/-- A search takes the next position off what is left in the cycle. -/
theorem At.seek (hg : Graded weights top step) {fuel : Nat} (h : At weights top step r t)
    (ht : t < cycle weights top step) (hs : seek fuel r = some s) :
    ∃ u < cycle weights top step, At weights top step s (u + 1) ∧
      s.last = some (u % weights.length) ∧
      ahead weights top step t = u % weights.length :: ahead weights top step (u + 1) := by
  induction fuel generalizing r t with
  | zero => simp [Rotation.seek] at hs
  | succ fuel ih =>
    rw [Rotation.seek] at hs
    by_cases hpicks : PicksAt weights top step t
    · rw [if_pos (h.picks_iff.mpr hpicks)] at hs
      obtain rfl := Option.some.inj hs
      exact ⟨t, ht, h.look hg, congrArg Rotation.last h.look_eq, (ahead_eq ht).trans (if_pos hpicks)⟩
    · rw [if_neg (h.picks_iff.not.mpr hpicks)] at hs
      have hnext : t + 1 < cycle weights top step :=
        Nat.lt_of_le_of_ne ht fun hlast => hpicks (picksAt_last hg hlast)
      obtain ⟨u, hu, hat, hlast, hahead⟩ := ih (h.look hg) hnext hs
      exact ⟨u, hu, hat, hlast, ((ahead_eq ht).trans (if_neg hpicks)).trans hahead⟩

/-- A search as a number of looks: the last one picks, and none before it does. -/
theorem seek_eq_some {fuel : Nat} (hs : seek fuel r = some s) :
    ∃ n, 0 < n ∧ n ≤ fuel ∧ Rotation.look^[n] r = s ∧ s.picks = true ∧
      ∀ m, 0 < m → m < n → (Rotation.look^[m] r).picks = false := by
  induction fuel generalizing r with
  | zero => simp [Rotation.seek] at hs
  | succ fuel ih =>
    rw [Rotation.seek] at hs
    cases hpicks : r.look.picks with
    | true =>
      rw [if_pos hpicks] at hs
      obtain rfl := Option.some.inj hs
      exact ⟨1, Nat.one_pos, Nat.le_add_left .., rfl, hpicks, fun m hpos hm => by omega⟩
    | false =>
      rw [if_neg (by simp [hpicks])] at hs
      obtain ⟨n, hpos, hle, hlook, hlast, hbefore⟩ := ih hs
      refine ⟨n + 1, n.succ_pos, by omega, hlook, hlast, fun m hm hlt => ?_⟩
      obtain ⟨m, rfl⟩ : ∃ k, m = k + 1 := ⟨m - 1, by omega⟩
      cases m with
      | zero => exact hpicks
      | succ m => exact hbefore (m + 1) m.succ_pos (by omega)

/-! ### Turns -/

/-- A rotation has picked the first positions of the block; the next one is due. -/
def Due (weights : List Nat) (top step : Nat) (r : Rotation) (j : Nat) : Prop :=
  ∃ t < cycle weights top step, At weights top step r t ∧
    ahead weights top step t = (block weights top step).drop j

theorem due_zero (hg : Graded weights top step) (h : At weights top step r 0) :
    Due weights top step r 0 :=
  ⟨0, Nat.mul_pos hg.length_pos hg.levels_pos, h, ahead_zero hg⟩

theorem Due.lt (h : Due weights top step r j) (hg : Graded weights top step) :
    j < (block weights top step).length := by
  obtain ⟨t, ht, -, hahead⟩ := h
  by_contra hj
  exact ahead_ne_nil hg ht (hahead.trans (List.drop_eq_nil_iff.mpr (Nat.not_lt.mp hj)))

/-- The next turn is the position that is due, and then the one behind it is due, or the block
begins again. The search for it comes to an end within one round. -/
theorem Due.next (h : Due weights top step r j) (hg : Graded weights top step) :
    Rotation.seek weights.length r = some r.next ∧ r.next.weights = weights ∧
      r.next.last = (block weights top step)[j]? ∧
      Due weights top step r.next ((j + 1) % (block weights top step).length) := by
  obtain ⟨t, ht, hat, hahead⟩ := h
  have hweights := hat.weights_eq
  have hsome : Rotation.seek r.weights.length r ≠ none := by
    refine seek_length ?_ ?_ (hat.top_eq hg ▸ hat.level_le)
    · exact hweights ▸ List.ne_nil_of_length_pos hg.length_pos
    · exact hweights ▸ hg.positive
  obtain ⟨s, hs⟩ := Option.ne_none_iff_exists'.mp hsome
  have hnext : r.next = s := by rw [Rotation.next, hs, Option.getD_some]
  rw [hnext, ← hs, hweights]
  obtain ⟨u, hu, hat', hlast, hahead'⟩ := hat.seek hg ht hs
  -- What was due is the head of what was left, and the rest is left now.
  rw [hahead] at hahead'
  have hhead : (block weights top step)[j]? = some (u % weights.length) := by
    rw [← List.head?_drop, hahead', List.head?_cons]
  have hrest : ahead weights top step (u + 1) = (block weights top step).drop (j + 1) := by
    rw [← List.tail_drop, hahead', List.tail_cons]
  have hj : j < (block weights top step).length := (List.getElem?_eq_some_iff.mp hhead).1
  refine ⟨rfl, hat'.weights_eq, hlast.trans hhead.symm, ?_⟩
  by_cases hend : j + 1 = (block weights top step).length
  · have hover : u + 1 = cycle weights top step := by
      by_contra hne
      refine ahead_ne_nil hg (Nat.lt_of_le_of_ne hu hne) ?_
      rw [hrest, hend, List.drop_length]
    rw [hend, Nat.mod_self]
    exact due_zero hg ((hover ▸ hat').wrap hg)
  · have hlt : j + 1 < (block weights top step).length := Nat.lt_of_le_of_ne hj hend
    have hgoes : u + 1 < cycle weights top step := by
      refine Nat.lt_of_le_of_ne hu fun hover => ?_
      have hnil : (block weights top step).drop (j + 1) = [] := by
        rw [← hrest, hover, ahead_cycle]
      exact Nat.not_lt.mpr (List.drop_eq_nil_iff.mp hnil) hlt
    rw [Nat.mod_eq_of_lt hlt]
    exact ⟨u + 1, hgoes, hat', hrest⟩

end Rotation

/-! ### Choices -/

/-- What is chosen for: a key, and candidates with some weights. -/
structure Choice where
  key : String
  weights : List Nat

namespace Weighted

variable {b : Weighted} {key key' : String} {choices : List Choice}

/-- The turns of a key among some choices, each with the rotation in which it is searched for. Where
there are fewer than two candidates, nothing is searched for. -/
def turns (b : Weighted) (key : String) : List Choice → List (Rotation × Option Nat)
  | [] => []
  | c :: rest =>
    let (picked, after) := b.choose c.key c.weights
    if c.key = key ∧ 2 ≤ c.weights.length then
      (b.rotation key (c.weights.map (max · 1)), picked) :: after.turns key rest
    else after.turns key rest

theorem choose_few (b : Weighted) (key : String) (h : weights.length < 2) :
    (b.choose key weights).2 = b := by
  match weights with
  | [] => rfl
  | [w] => rfl

theorem choose_many (b : Weighted) (key : String) (h : 2 ≤ weights.length) :
    b.choose key weights
      = ((b.rotation key (weights.map (max · 1))).next.last,
        ⟨b.rotations.set key (b.rotation key (weights.map (max · 1))).next⟩) := by
  match weights with
  | w :: w' :: rest => rfl

/-- A choice under another key leaves the rotation alone. -/
theorem rotation_choose_other (h : key' ≠ key) (weights ws : List Nat) :
    (b.choose key' weights).2.rotation key ws = b.rotation key ws := by
  rcases Nat.lt_or_ge weights.length 2 with hfew | hmany
  · rw [choose_few b key' hfew]
  · rw [choose_many b key' hmany, rotation, Keyed.find_set_other _ h, rotation]

theorem rotation_set (b : Weighted) (key : String) (r : Rotation) :
    rotation ⟨b.rotations.set key r⟩ key r.weights = r := by
  rw [rotation, Keyed.find_set_self]
  exact if_pos rfl

/-- From a rotation in which a position of the block is due, the turns go on from there. -/
theorem turns_of_due (hg : Graded weights top step)
    (hchoices : ∀ c ∈ choices, c.key = key →
      c.weights.map (max · 1) = weights ∨ c.weights.length < 2)
    (h : (b.rotation key weights).Due weights top step j) {e : Rotation × Option Nat}
    (he : (b.turns key choices)[i]? = some e) :
    e.2 = (block weights top step)[(j + i) % (block weights top step).length]? ∧
      e.2 = e.1.next.last ∧ Rotation.seek weights.length e.1 = some e.1.next := by
  induction choices generalizing b i j with
  | nil => simp [turns] at he
  | cons c rest ih =>
    obtain ⟨hc, hrest⟩ := List.forall_mem_cons.mp hchoices
    rw [turns] at he
    by_cases hcounts : c.key = key ∧ 2 ≤ c.weights.length
    · obtain ⟨hkey, hmany⟩ := hcounts
      have hweights := (hc hkey).resolve_right (Nat.not_lt.mpr hmany)
      dsimp only at he
      rw [if_pos ⟨hkey, hmany⟩, choose_many b c.key hmany, hweights, hkey] at he
      obtain ⟨hseek, hsame, hlast, hdue⟩ := h.next hg
      cases i with
      | zero =>
        obtain rfl := Option.some.inj he
        have hj := h.lt hg
        exact ⟨by rw [Nat.add_zero, Nat.mod_eq_of_lt hj, hlast], rfl, hseek⟩
      | succ i =>
        have hafter := rotation_set b key (b.rotation key weights).next
        rw [hsame] at hafter
        have hshift : j + (i + 1) = j + 1 + i := by omega
        rw [hshift, ← Nat.mod_add_mod]
        exact ih hrest (hafter.symm ▸ hdue) he
    · dsimp only at he
      rw [if_neg hcounts] at he
      refine ih hrest ?_ he
      -- The choice has not moved the rotation of the key.
      by_cases hkey : c.key = key
      · have hfew : c.weights.length < 2 := by
          by_contra hmany
          exact hcounts ⟨hkey, Nat.not_lt.mp hmany⟩
        rwa [choose_few b c.key hfew]
      · rwa [rotation_choose_other hkey]

end Weighted

/-- So many turns as a block is long contain each position as often as the block does, wherever they
begin. -/
theorem count_window {turns : List (Option Nat)} {cycle : List Nat} {a : Nat}
    (h : ∀ i < turns.length, turns[i]? = some cycle[i % cycle.length]?)
    (ha : a + cycle.length ≤ turns.length) (i : Nat) :
    ((turns.drop a).take cycle.length).count (some i) = cycle.count i := by
  have hwindow : (turns.drop a).take cycle.length = (cycle.rotate a).map some := by
    have hlength : ((turns.drop a).take cycle.length).length = cycle.length := by
      rw [List.length_take, List.length_drop]
      omega
    refine List.ext_getElem (by rw [hlength, List.length_map, List.length_rotate]) ?_
    intro j hj _
    rw [hlength] at hj
    have hturn := h (a + j) (by omega)
    have hmod : (a + j) % cycle.length < cycle.length := Nat.mod_lt _ (by omega)
    rw [List.getElem?_eq_getElem (by omega), List.getElem?_eq_getElem hmod] at hturn
    simp only [List.getElem_take, List.getElem_drop, List.getElem_map, List.getElem_rotate,
      Option.some.inj hturn, Nat.add_comm j a]
  rw [hwindow, List.count_map_of_injective _ _ (Option.some_injective Nat)]
  exact (List.rotate_perm cycle a).count_eq i

/-- **Turns by weight repeat a block.** The turns of a key go through its block again and again, from
the moment at which nothing is remembered under the key, or what is remembered is of other weights,
as long as each choice under the key is among candidates with these weights or among fewer than two.
Weights of zero count as one. The block lists, level by level from the largest weight down by the
greatest common divisor, the positions whose weights reach the level. So as many turns in a row as
the block is long contain each position as often as its weight holds the divisor. No search looks at
more positions than there are: the last one it looks at is picked, and none before it is. -/
theorem turns_repeat_block {b : Weighted} {key : String} {choices : List Choice}
    (hg : Graded (weights.map (max · 1)) top step)
    (hfresh : ∀ r, b.rotations.find key = some r → r.weights ≠ weights.map (max · 1))
    (hchoices : ∀ c ∈ choices, c.key = key →
      c.weights.map (max · 1) = weights.map (max · 1) ∨ c.weights.length < 2) :
    let ws := weights.map (max · 1)
    let found := b.turns key choices
    let picked := found.map (·.2)
    (∀ i < picked.length,
      picked[i]? = some (block ws top step)[i % (block ws top step).length]?) ∧
    0 < (block ws top step).length ∧ (block ws top step).length = ws.sum / step ∧
    (∀ a, a + ws.sum / step ≤ picked.length → ∀ i w, ws[i]? = some w →
      ((picked.drop a).take (ws.sum / step)).count (some i) = w / step) ∧
    ∀ e ∈ found, ∃ n, 0 < n ∧ n ≤ weights.length ∧ (Rotation.look^[n] e.1).last = e.2 ∧
      (Rotation.look^[n] e.1).picks = true ∧
      ∀ m, 0 < m → m < n → (Rotation.look^[m] e.1).picks = false := by
  intro ws found picked
  have hstart : b.rotation key ws = .start ws := by
    rcases b.rotation_cases key ws with hr | ⟨hfind, hsame⟩
    · exact hr
    · exact absurd hsame (hfresh _ hfind)
  have hdue : (b.rotation key ws).Due ws top step 0 :=
    hstart ▸ Rotation.due_zero hg (Rotation.start_at hg)
  have hstep := hg.step_pos
  have htop := hg.step_dvd hg.top_mem
  have hgrades : ∀ w ∈ ws, step ∣ w ∧ w ≤ top := fun w hw => ⟨hg.step_dvd hw, hg.le_top w hw⟩
  have hlength : (block ws top step).length = ws.sum / step :=
    Nat.eq_div_of_mul_eq_left hstep.ne' (length_block hstep htop hgrades)
  have hturns : ∀ i < picked.length,
      picked[i]? = some (block ws top step)[i % (block ws top step).length]? := by
    intro i hi
    rw [List.length_map] at hi
    have hget : found[i]? = some found[i] := List.getElem?_eq_getElem hi
    have hturn := (Weighted.turns_of_due hg hchoices hdue hget).1
    rw [Nat.zero_add] at hturn
    rw [List.getElem?_map, hget, Option.map_some, hturn]
  refine ⟨hturns, hdue.lt hg, hlength, fun a ha i w hw => ?_, fun e he => ?_⟩
  · rw [← hlength] at ha ⊢
    have hmem := List.mem_of_getElem? hw
    have hcount := count_block hstep htop hw (hg.step_dvd hmem) (hg.le_top w hmem)
    rw [count_window hturns ha]
    exact Nat.eq_div_of_mul_eq_left hstep.ne' hcount
  · obtain ⟨i, hi⟩ := List.mem_iff_getElem?.mp he
    obtain ⟨-, hlast, hseek⟩ := Weighted.turns_of_due hg hchoices hdue hi
    obtain ⟨n, hpos, hle, hlook, hpicks, hbefore⟩ := Rotation.seek_eq_some hseek
    have hsize : ws.length = weights.length := List.length_map _
    refine ⟨n, hpos, hsize ▸ hle, ?_, ?_, hbefore⟩
    · rw [hlook, hlast]
    · rw [hlook, hpicks]

/-- Three candidates at a key at which others have taken a turn before, with choices under another
key and with too few candidates in between. The third of them has no weight, and counts as one. -/
theorem turns_repeat_block_mixed :
    let b := (Weighted.empty.choose "a" [3, 1]).2
    let choices : List Choice := [⟨"a", [3, 2, 0]⟩, ⟨"b", [1, 1]⟩, ⟨"a", [3, 2, 0]⟩, ⟨"a", []⟩,
      ⟨"a", [3, 2, 1]⟩, ⟨"a", [3, 2, 0]⟩, ⟨"a", [7]⟩, ⟨"b", [1, 1]⟩, ⟨"a", [3, 2, 0]⟩,
      ⟨"a", [3, 2, 0]⟩, ⟨"a", [3, 2, 0]⟩]
    let picked := (b.turns "a" choices).map (·.2)
    Graded [3, 2, 1] 3 1 ∧ block [3, 2, 1] 3 1 = [0, 0, 1, 0, 1, 2] ∧
      picked = [some 0, some 0, some 1, some 0, some 1, some 2, some 0] ∧
      ((picked.drop 1).take 6).count (some 1) = 2 := by
  intro b choices picked
  have hg : Graded [3, 2, 1] 3 1 := by
    refine ⟨by decide, by decide, by decide, fun d => ?_⟩
    simp only [List.forall_mem_cons, List.not_mem_nil, false_implies, implies_true, and_true]
    exact ⟨fun hd => ⟨hd.trans (one_dvd 3), hd.trans (one_dvd 2), hd⟩, fun hd => hd.2.2⟩
  have hfresh : ∀ r, b.rotations.find "a" = some r → r.weights ≠ [3, 2, 1] := by
    intro r hr
    have hfirst : b.rotations.find "a" = some ⟨[3, 1], some 0, 3⟩ := by decide
    obtain rfl := Option.some.inj (hfirst.symm.trans hr)
    decide
  have hchoices : ∀ c ∈ choices, c.key = "a" →
      c.weights.map (max · 1) = [3, 2, 1] ∨ c.weights.length < 2 := by decide
  obtain ⟨-, -, -, hshare, -⟩ := @turns_repeat_block [3, 2, 0] 3 1 b "a" choices hg hfresh hchoices
  refine ⟨hg, by decide, by decide, ?_⟩
  exact hshare 1 (by decide) 1 2 rfl

end HttpGateway.Balance
