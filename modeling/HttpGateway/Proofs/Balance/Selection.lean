/-
What a selection comes to.

* `seek_length` — a rotation whose level is not above the top finds a position within one round.
* `Balancers.choose_cases` — a turn is a position in range, or no turn is counted.
* `Balancers.select_cases` — a selection gives a healthy instance of the route, or an error that
  leaves all turns as they were.

A rotation that does not come to a position within one round would be left as it is. That cannot
happen to one that has just been started, whatever the balancers remember.
-/
import HttpGateway.Balance.Selector
import HttpGateway.Proofs.Keyed

namespace HttpGateway.Balance

open Http Route Settings

/-! ### Rotations -/

namespace Rotation

variable {r s : Rotation}

theorem nextPosition_lt (h : 0 < r.weights.length) : r.nextPosition < r.weights.length := by
  unfold nextPosition
  split
  · exact Nat.mod_lt _ h
  · exact h

theorem nextPosition_look (r : Rotation) :
    r.look.nextPosition = (r.nextPosition + 1) % r.weights.length := rfl

theorem level_look (h : r.level ≤ r.top) : r.look.level ≤ r.look.top := by
  show (if r.nextPosition = 0 then r.nextLevel else r.level) ≤ r.top
  unfold nextLevel
  split
  · split
    · exact Nat.le_refl _
    · exact Nat.le_trans (Nat.sub_le ..) h
  · exact h

/-- The position that a rotation comes to is in range. -/
theorem last_of_seek (h : 0 < r.weights.length) {fuel : Nat} (hs : seek fuel r = some s) :
    ∃ i < r.weights.length, s.last = some i := by
  induction fuel generalizing r with
  | zero => simp [seek] at hs
  | succ fuel ih =>
    rw [seek] at hs
    split at hs
    · rw [← Option.some.inj hs]
      exact ⟨r.nextPosition, nextPosition_lt h, rfl⟩
    · exact ih (r := r.look) h hs

/-- Positions that are passed over have weights below the top. -/
theorem weight_of_seek_none (h : 0 < r.weights.length) (hl : r.level ≤ r.top) {fuel : Nat}
    (hs : seek fuel r = none) {k : Nat} (hk : k < fuel) :
    (r.weights[(r.nextPosition + k) % r.weights.length]?).getD 0 < r.top := by
  induction fuel generalizing r k with
  | zero => exact absurd hk (Nat.not_lt_zero k)
  | succ fuel ih =>
    rw [seek] at hs
    split at hs
    · simp at hs
    · next hpicks =>
      cases k with
      | zero =>
        have hweight : r.look.weightAtLast < r.look.level := by simpa [picks] using hpicks
        rw [Nat.add_zero, Nat.mod_eq_of_lt (nextPosition_lt h)]
        exact Nat.lt_of_lt_of_le hweight (level_look hl)
      | succ k =>
        have hrest := ih (r := r.look) h (level_look hl) hs (Nat.lt_of_succ_lt_succ hk)
        rw [nextPosition_look] at hrest
        show (r.weights[(r.nextPosition + (k + 1)) % r.weights.length]?).getD 0 < r.top
        rw [← Nat.add_assoc, Nat.add_right_comm, ← Nat.mod_add_mod]
        exact hrest

/-- Some weight reaches the top. -/
theorem exists_top (hr : r.weights ≠ []) (hw : ∀ w ∈ r.weights, 1 ≤ w) :
    ∃ i, ∃ hi : i < r.weights.length, r.top ≤ r.weights[i] := by
  obtain ⟨w, hmax⟩ := Option.isSome_iff_exists.mp (List.isSome_max?_of_ne_nil hr)
  obtain ⟨hmem, -⟩ := List.max?_eq_some_iff.mp hmax
  obtain ⟨i, hi, rfl⟩ := List.getElem_of_mem hmem
  refine ⟨i, hi, ?_⟩
  rw [top, List.foldl_max, hmax]
  have := hw _ hmem
  simp
  omega

/-- A rotation comes to a position within one round. -/
theorem seek_length (hr : r.weights ≠ []) (hw : ∀ w ∈ r.weights, 1 ≤ w) (hl : r.level ≤ r.top) :
    seek r.weights.length r ≠ none := by
  intro hs
  have hpos : 0 < r.weights.length := List.length_pos_of_ne_nil hr
  have hnext := nextPosition_lt hpos
  obtain ⟨i, hi, htop⟩ := exists_top hr hw
  -- Position `i` is passed over like all others.
  obtain ⟨k, hk, hki⟩ : ∃ k < r.weights.length, (r.nextPosition + k) % r.weights.length = i := by
    refine ⟨(i + (r.weights.length - r.nextPosition)) % r.weights.length, Nat.mod_lt _ hpos, ?_⟩
    rw [Nat.add_mod_mod, Nat.add_left_comm, Nat.add_sub_cancel' (Nat.le_of_lt hnext),
      Nat.add_mod_right, Nat.mod_eq_of_lt hi]
  have hlt := weight_of_seek_none hpos hl hs hk
  rw [hki, List.getElem?_eq_getElem hi, Option.getD_some] at hlt
  omega

end Rotation

/-! ### Turns -/

theorem RoundRobin.choose_lt (b : RoundRobin) (key : String) {count : Nat} (h : 0 < count) :
    ∃ i < count, (b.choose key count).1 = some i := by
  match count with
  | 1 => exact ⟨0, h, rfl⟩
  | count + 2 => exact ⟨_, Nat.mod_lt _ h, rfl⟩

/-- A rotation that is not the remembered one has just been started. -/
theorem Weighted.rotation_cases (b : Weighted) (key : String) (weights : List Nat) :
    b.rotation key weights = .start weights ∨
      b.rotations.find key = some (b.rotation key weights) ∧
        (b.rotation key weights).weights = weights := by
  unfold rotation
  cases hfind : b.rotations.find key with
  | none => exact .inl rfl
  | some r =>
    by_cases hw : r.weights = weights
    · exact .inr (by simp [hw])
    · exact .inl (if_neg hw)

theorem Weighted.rotation_weights (b : Weighted) (key : String) (weights : List Nat) :
    (b.rotation key weights).weights = weights := by
  rcases b.rotation_cases key weights with hr | ⟨-, hr⟩
  · rw [hr]
    rfl
  · exact hr

theorem one_le_of_mem_map_max {weights : List Nat} :
    ∀ x ∈ weights.map (max · 1), 1 ≤ x := by
  intro x hx
  obtain ⟨y, -, rfl⟩ := List.mem_map.mp hx
  exact Nat.le_max_right ..

/-- A turn by weight is a position in range, or nothing was counted. -/
theorem Weighted.choose_cases (b : Weighted) (key : String) {weights : List Nat}
    (h : weights ≠ []) :
    (∃ i < weights.length, (b.choose key weights).1 = some i) ∨ (b.choose key weights).2 = b := by
  match weights with
  | [w] => exact .inl ⟨0, Nat.one_pos, rfl⟩
  | w :: w' :: rest =>
    let ws := (w :: w' :: rest).map (max · 1)
    let r := b.rotation key ws
    have hchoose : b.choose key (w :: w' :: rest) = (r.next.last, ⟨b.rotations.set key r.next⟩) :=
      rfl
    have hws : r.weights = ws := b.rotation_weights key ws
    have hlen : r.weights.length = (w :: w' :: rest).length := by rw [hws, List.length_map]
    have hpos : 0 < r.weights.length := hlen ▸ Nat.succ_pos _
    rw [hchoose, Rotation.next]
    cases hseek : Rotation.seek r.weights.length r with
    | some s =>
      obtain ⟨i, hi, hlast⟩ := Rotation.last_of_seek hpos hseek
      exact .inl ⟨i, hlen ▸ hi, hlast⟩
    | none =>
      -- Only a rotation that is remembered can fail, and it stays as it is.
      refine .inr ?_
      rcases b.rotation_cases key ws with hr | ⟨hfind, -⟩
      · refine absurd hseek (Rotation.seek_length (List.ne_nil_of_length_pos hpos) ?_ ?_)
        · exact hws ▸ one_le_of_mem_map_max
        · exact Nat.le_trans (Nat.le_of_eq (congrArg Rotation.level hr)) (Nat.zero_le _)
      · exact congrArg Weighted.mk (Keyed.set_of_find hfind)

/-! ### Selections -/

variable {r : Route} {h : Fields} {client : String}

theorem of_mem_healthyCandidates {c : Candidate} (hc : c ∈ healthyCandidates r) :
    r.instances[c.1]? = some c.2 ∧ c.2.isHealthy = true := by
  obtain ⟨hmem, hhealthy⟩ := List.mem_filter.mp hc
  obtain ⟨⟨i, k⟩, hik, rfl⟩ := List.mem_map.mp hmem
  exact ⟨List.mem_zipIdx_iff_getElem?.mp hik, hhealthy⟩

/-- The candidates that take turns are healthy ones, and there are some if any is healthy. -/
theorem partition_candidates {healthy : List Candidate} (hne : healthy ≠ [])
    (group : Option Bool) :
    (partition r healthy group).2 ⊆ healthy ∧ (partition r healthy group).2 ≠ [] := by
  unfold partition
  split
  · exact ⟨List.Subset.refl _, hne⟩
  · next g =>
    dsimp only
    split
    · exact ⟨List.Subset.refl _, hne⟩
    · next hmembers => exact ⟨List.filter_subset_self _, by simpa using hmembers⟩

/-- A turn is a position in range, or nothing was counted. -/
theorem Balancers.choose_cases (b : Balancers) (policy : Balancing) (key : String)
    {weights : List Nat} (h : weights ≠ []) :
    (∃ i < weights.length, (b.choose policy key weights).1 = some i) ∨
      (b.choose policy key weights).2 = b := by
  cases policy with
  | roundRobin => exact .inl (b.roundRobin.choose_lt key (List.length_pos_of_ne_nil h))
  | weightedRoundRobin =>
    rcases b.weighted.choose_cases key h with hi | hb
    · exact .inl hi
    · exact .inr (congrArg (Balancers.mk b.roundRobin) hb)

/-- **What a selection comes to.** It gives a healthy instance of the route with its position, or it
fails for want of one, and then all turns are as they were. -/
theorem Balancers.select_cases (b : Balancers) (r : Route) (h : Fields) (client : String) :
    (∃ k i b', b.select r h client = (.ok (k, i), b') ∧ r.instances[k]? = some i ∧
        i.isHealthy = true) ∨
      b.select r h client = (.error .noInstance, b) := by
  unfold select
  by_cases hhealthy : (healthyCandidates r).isEmpty = true
  · exact .inr (if_pos hhealthy)
  · have hne : healthyCandidates r ≠ [] := by simpa using hhealthy
    obtain ⟨hsub, hcandidates⟩ := partition_candidates (r := r) hne (grayGroup r h client)
    rw [if_neg hhealthy]
    generalize partition r (healthyCandidates r) (grayGroup r h client) = p at hsub hcandidates
    obtain ⟨key, candidates⟩ := p
    have hweights : candidates.map (·.2.weight) ≠ [] := by simpa using hcandidates
    rcases b.choose_cases r.balancing key hweights with ⟨i, hi, hchoice⟩ | hsame
    · rw [List.length_map] at hi
      have hc := hsub (List.getElem_mem hi)
      refine .inl ⟨_, _, (b.choose r.balancing key (candidates.map (·.2.weight))).2, ?_,
        of_mem_healthyCandidates hc⟩
      simp [hchoice, hi]
    · -- Nothing was counted; what remains is whether the position is one of a candidate.
      cases hchosen : (b.choose r.balancing key (candidates.map (·.2.weight))).1.bind
          (candidates[·]?) with
      | none => exact .inr (by simp [hchosen, hsame])
      | some c =>
        obtain ⟨i, -, hi⟩ := Option.bind_eq_some_iff.mp hchosen
        have hc := hsub (List.mem_of_getElem? hi)
        exact .inl ⟨c.1, c.2, b, by simp [hchosen, hsame], of_mem_healthyCandidates hc⟩

end HttpGateway.Balance
