/-
Selecting an instance of the right group.

* **Balancers.Reached** — the turns to which selections lead, for whatever routes and requests.
* **Weighted.Sound** — no rotation is at a level above its top. It holds of all turns that can be
  reached (`Reached.sound`), and with it a turn is a position in range (`choose_lt`).
* `select_in_group` — so a selection fails for want of a healthy instance and for nothing else. It
  gives a healthy instance of the group that the request belongs to, if there is one.
-/
import HttpGateway.Proofs.Balance.Selection

namespace HttpGateway.Balance

open Http Route Settings

/-! ### Rotations that remain in their levels -/

namespace Rotation

variable {r s : Rotation}

theorem level_seek (hl : r.level ≤ r.top) {fuel : Nat} (hs : seek fuel r = some s) :
    s.level ≤ s.top := by
  induction fuel generalizing r with
  | zero => simp [seek] at hs
  | succ fuel ih =>
    rw [seek] at hs
    split at hs
    · obtain rfl := Option.some.inj hs
      exact level_look hl
    · exact ih (level_look hl) hs

/-- The next turn is a position, and the rotation remains in its levels. -/
theorem next_sound (hr : r.weights ≠ []) (hw : ∀ w ∈ r.weights, 1 ≤ w) (hl : r.level ≤ r.top) :
    (∃ i < r.weights.length, r.next.last = some i) ∧ r.next.level ≤ r.next.top := by
  cases hs : seek r.weights.length r with
  | none => exact absurd hs (seek_length hr hw hl)
  | some s =>
    rw [next, hs, Option.getD_some]
    exact ⟨last_of_seek (List.length_pos_of_ne_nil hr) hs, level_seek hl hs⟩

end Rotation

namespace Weighted

/-- No rotation is at a level above its top. -/
def Sound (b : Weighted) : Prop :=
  ∀ key r, b.rotations.find key = some r → r.level ≤ r.top

variable {b : Weighted}

theorem Sound.rotation (hb : b.Sound) (key : String) (weights : List Nat) :
    (b.rotation key weights).level ≤ (b.rotation key weights).top := by
  rcases b.rotation_cases key weights with hr | ⟨hfind, -⟩
  · rw [hr]
    exact Nat.zero_le _
  · exact hb key _ hfind

/-- A turn is a position in range, and all rotations remain in their levels. -/
theorem Sound.choose (hb : b.Sound) (key : String) {weights : List Nat} (h : weights ≠ []) :
    (∃ i < weights.length, (b.choose key weights).1 = some i) ∧ (b.choose key weights).2.Sound := by
  match weights with
  | [w] => exact ⟨⟨0, Nat.one_pos, rfl⟩, hb⟩
  | w :: w' :: rest =>
    let ws := (w :: w' :: rest).map (max · 1)
    let r := b.rotation key ws
    have hws : r.weights = ws := b.rotation_weights key ws
    have hpositive : ∀ x ∈ r.weights, 1 ≤ x := hws ▸ one_le_of_mem_map_max
    have hne : r.weights ≠ [] := by
      rw [hws]
      simp [ws]
    obtain ⟨⟨i, hi, hlast⟩, hlevel⟩ := r.next_sound hne hpositive (hb.rotation key ws)
    rw [hws, List.length_map] at hi
    refine ⟨⟨i, hi, hlast⟩, fun key' r' hfind => ?_⟩
    -- Only the rotation of this key has moved.
    have hset : (b.rotations.set key r.next).find key' = some r' := hfind
    by_cases hkey : key = key'
    · rw [← hkey, Keyed.find_set_self] at hset
      exact Option.some.inj hset ▸ hlevel
    · rw [Keyed.find_set_other _ hkey] at hset
      exact hb key' r' hset

end Weighted

/-! ### Turns that can be reached -/

namespace Balancers

/-- The turns to which selections lead. -/
inductive Reached : Balancers → Prop
  | empty : Reached .empty
  | select {b : Balancers} (r : Route) (h : Fields) (client : String) :
      Reached b → Reached (b.select r h client).2

variable {b : Balancers} {r : Route} {h : Fields} {client : String}

theorem choose_sound (hb : b.weighted.Sound) (policy : Balancing) (key : String)
    {weights : List Nat} (h : weights ≠ []) :
    (∃ i < weights.length, (b.choose policy key weights).1 = some i) ∧
      (b.choose policy key weights).2.weighted.Sound := by
  cases policy with
  | roundRobin => exact ⟨b.roundRobin.choose_lt key (List.length_pos_of_ne_nil h), hb⟩
  | weightedRoundRobin => exact hb.choose key h

/-- Where an instance is healthy, one of the candidates for the request is selected. -/
theorem select_candidate (h : Fields) (client : String) (hb : b.weighted.Sound)
    (hne : healthyCandidates r ≠ []) :
    (∃ c ∈ (partition r (healthyCandidates r) (grayGroup r h client)).2,
      (b.select r h client).1 = .ok c) ∧ (b.select r h client).2.weighted.Sound := by
  obtain ⟨-, hcandidates⟩ := partition_candidates (r := r) hne (grayGroup r h client)
  have hhealthy : ¬ (healthyCandidates r).isEmpty = true := by simpa using hne
  unfold select
  rw [if_neg hhealthy]
  generalize partition r (healthyCandidates r) (grayGroup r h client) = p at hcandidates
  obtain ⟨key, candidates⟩ := p
  have hweights : candidates.map (·.2.weight) ≠ [] := by simpa using hcandidates
  -- The turn is one among the weights of these candidates, so its position is one of theirs.
  obtain ⟨⟨i, hi, hchoice⟩, hsound⟩ := choose_sound hb r.balancing key hweights
  rw [List.length_map] at hi
  have hget : candidates[i]? = some candidates[i] := List.getElem?_eq_getElem hi
  simp only [hchoice, Option.bind_some, hget]
  exact ⟨⟨candidates[i], List.getElem_mem hi, rfl⟩, hsound⟩

theorem Reached.sound (hb : Reached b) : b.weighted.Sound := by
  induction hb with
  | empty => exact fun key r hfind => by simp [Balancers.empty, Weighted.empty] at hfind
  | @select b r h client _ ih =>
    by_cases hne : healthyCandidates r = []
    · rw [Balancers.select, if_pos (by simp [hne])]
      exact ih
    · exact (select_candidate _ _ ih hne).2

/-! ### Groups -/

/-- Every healthy instance of a route is a candidate. -/
theorem exists_mem_healthyCandidates {i : Instance} (hi : i ∈ r.instances)
    (hhealthy : i.isHealthy = true) : ∃ k, (k, i) ∈ healthyCandidates r := by
  obtain ⟨k, hk⟩ := List.getElem?_of_mem hi
  have hplaced : (i, k) ∈ r.instances.zipIdx := List.mem_zipIdx_iff_getElem?.mpr hk
  exact ⟨k, List.mem_filter.mpr ⟨List.mem_map.mpr ⟨(i, k), hplaced, rfl⟩, hhealthy⟩⟩

theorem healthyCandidates_eq_nil :
    healthyCandidates r = [] ↔ ∀ i ∈ r.instances, i.isHealthy = false := by
  constructor
  · intro hnil i hi
    by_contra hhealthy
    obtain ⟨k, hmem⟩ := exists_mem_healthyCandidates hi (by simpa using hhealthy)
    rw [hnil] at hmem
    exact List.not_mem_nil hmem
  · intro hnone
    refine List.eq_nil_iff_forall_not_mem.mpr fun c hc => ?_
    obtain ⟨hget, hhealthy⟩ := of_mem_healthyCandidates hc
    rw [hnone c.2 (List.mem_of_getElem? hget)] at hhealthy
    exact Bool.false_ne_true hhealthy

/-- The candidates of a request are those of its group, if there is one of them. -/
theorem partition_group {healthy : List Candidate} {g : Bool} {c : Candidate}
    (hc : c ∈ (partition r healthy (some g)).2) (hsome : ∃ c ∈ healthy, c.2.gray = g) :
    c.2.gray = g := by
  obtain ⟨c', hc', hg'⟩ := hsome
  have hmember : c' ∈ healthy.filter (·.2.gray == g) := List.mem_filter.mpr ⟨hc', by simp [hg']⟩
  have hsome : ¬ (healthy.filter (·.2.gray == g)).isEmpty = true := by
    rw [List.isEmpty_iff]
    exact List.ne_nil_of_mem hmember
  simp only [partition, if_neg hsome] at hc
  simpa using (List.mem_filter.mp hc).2

/-- **What is selected.** A selection fails, with all turns as they were, exactly if no instance of
the route is healthy. Otherwise it gives a healthy instance of the route. It is one of the group
that the policy of the route assigns to the request, if that has a healthy instance. A policy that
cannot be evaluated makes no difference at all. -/
theorem select_in_group (hb : Reached b) (r : Route) (h : Fields) (client : String) :
    (b.select r h client = (.error .noInstance, b) ↔ ∀ i ∈ r.instances, i.isHealthy = false) ∧
    ((∃ i ∈ r.instances, i.isHealthy = true) →
      ∃ k i, (b.select r h client).1 = .ok (k, i) ∧ r.instances[k]? = some i ∧
        i.isHealthy = true ∧
        ∀ policy g, r.gray = some policy → policy.enabled = true →
          policy.evaluate h client = .ok g →
          (∃ j ∈ r.instances, j.isHealthy = true ∧ j.gray = g) → i.gray = g) ∧
    ∀ policy e, r.gray = some policy → policy.evaluate h client = .error e →
      b.select r h client = b.select { r with gray := none } h client := by
  refine ⟨?_, ?_, ?_⟩
  · rw [← healthyCandidates_eq_nil]
    constructor
    · intro herror
      by_contra hne
      obtain ⟨⟨c, -, hok⟩, -⟩ := select_candidate h client hb.sound hne
      simp [herror] at hok
    · intro hnil
      rw [select, if_pos (by simp [hnil])]
  · rintro ⟨j, hj, hhealthy⟩
    have hne : healthyCandidates r ≠ [] := by
      intro hnil
      rw [healthyCandidates_eq_nil.mp hnil j hj] at hhealthy
      exact Bool.false_ne_true hhealthy
    obtain ⟨⟨c, hc, hok⟩, -⟩ := select_candidate h client hb.sound hne
    obtain ⟨hsub, -⟩ := partition_candidates (r := r) hne (grayGroup r h client)
    obtain ⟨hget, hhealthy⟩ := of_mem_healthyCandidates (hsub hc)
    refine ⟨c.1, c.2, hok, hget, hhealthy, ?_⟩
    intro policy g hpolicy henabled heval hgroup
    have hgray : grayGroup r h client = some g := by
      simp [grayGroup, hpolicy, henabled, heval, Except.toOption]
    rw [hgray] at hc
    obtain ⟨i, hi, hihealthy, rfl⟩ := hgroup
    obtain ⟨k, hmem⟩ := exists_mem_healthyCandidates hi hihealthy
    exact partition_group hc ⟨(k, i), hmem, rfl⟩
  · intro policy e hpolicy heval
    have hgray : grayGroup r h client = grayGroup { r with gray := none } h client := by
      by_cases henabled : policy.enabled = true <;>
        simp [grayGroup, hpolicy, henabled, heval, Except.toOption]
    unfold select
    rw [hgray]
    rfl

/-- One of the gray instances is out of order, and the turns have moved on before. A request with
the field of the policy gets the other gray instance. -/
theorem select_in_group_canary :
    let instanceAt (port : Nat) (gray healthy : Bool) : Instance :=
      ⟨"web", ⟨"http".toList, [], [], some (.domain "h".toList), some port, ['/'], none, none⟩,
        "h", port, 2, gray, .given healthy⟩
    let policy : GrayPolicy := ⟨true, some ⟨"x-canary", ["true"]⟩, none, none, none⟩
    let r : Route := ⟨"web", "/", .weightedRoundRobin, some policy, [], false,
      [instanceAt 81 true false, instanceAt 82 false true, instanceAt 83 false true,
        instanceAt 84 true true], 0⟩
    let h := Fields.empty.set "x-canary" (FieldValue.ofAscii "true")
    let b := (Balancers.empty.select r .empty "10.0.0.1").2
    Reached b ∧ policy.evaluate h "10.0.0.1" = .ok true ∧
      ∃ k i, (b.select r h "10.0.0.1").1 = .ok (k, i) ∧ r.instances[k]? = some i ∧
        i.isHealthy = true ∧ i.gray = true := by
  intro instanceAt policy r h b
  have hb : Reached b := .select r .empty "10.0.0.1" .empty
  have heval : policy.evaluate h "10.0.0.1" = .ok true := by decide +kernel
  have hmembers : ∃ j ∈ r.instances, j.isHealthy = true ∧ j.gray = true := by decide +kernel
  obtain ⟨j, hj, hhealthy, hgray⟩ := hmembers
  obtain ⟨k, i, hok, hget, hi, hgroup⟩ :=
    (select_in_group hb r h "10.0.0.1").2.1 ⟨j, hj, hhealthy⟩
  exact ⟨hb, heval, k, i, hok, hget, hi, hgroup policy true rfl rfl heval ⟨j, hj, hhealthy, hgray⟩⟩

end Balancers

end HttpGateway.Balance
