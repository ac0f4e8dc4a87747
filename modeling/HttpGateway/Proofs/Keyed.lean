/-
Counting in a store.

* **countP** — how many keys have a value of some kind.
* `countP_set`, `countP_set_new`, `countP_erase` — how an operation on one key changes a count: by
  what becomes of that key's value.
* `contains_set`, `contains_erase` — which keys there are after an operation.
* `countP_add_le` — counts compare as kinds of values do.
* `length_le_countP` — different keys are counted one by one.

As in the store itself, what matters of the order is only which of two entries of one key comes
first; that no key has two of them is `keys.Nodup`, which every operation keeps.
-/
import HttpGateway.Keyed
import Mathlib.Data.List.Nodup
import Mathlib.Data.List.Perm.Subperm

namespace HttpGateway.Keyed

variable {κ α : Type} {s : Keyed κ α} {P Q R S : α → Bool}

/-- How many keys have a value of some kind. -/
def countP (s : Keyed κ α) (P : α → Bool) : Nat := s.entries.countP fun e => P e.2

/-- The values are changed, each for itself. -/
theorem countP_map (s : Keyed κ α) (f : α → α) (P : α → Bool) :
    (⟨s.entries.map fun e => (e.1, f e.2)⟩ : Keyed κ α).countP P = s.countP fun a => P (f a) := by
  rw [countP, countP, List.countP_map]
  rfl

theorem countP_add_le (h : ∀ a, (if P a then 1 else 0) + (if Q a then 1 else 0)
      ≤ (if R a then 1 else 0) + if S a then 1 else 0) :
    s.countP P + s.countP Q ≤ s.countP R + s.countP S := by
  obtain ⟨l⟩ := s
  simp only [countP]
  induction l with
  | nil => simp
  | cons e rest ih =>
    simp only [List.countP_cons]
    have := h e.2
    omega

variable [DecidableEq κ] {k k' : κ} {a b : α}

/-! ### Keys -/

theorem findIn_eq_none_iff {l : List (κ × α)} : findIn k l = none ↔ k ∉ l.map Prod.fst := by
  induction l with
  | nil => simp [findIn]
  | cons e rest ih =>
    rw [findIn, List.map_cons, List.mem_cons, not_or]
    by_cases he : e.1 = k
    · simp [he]
    · rw [if_neg he, ih]
      exact ⟨fun h => ⟨Ne.symm he, h⟩, fun h => h.2⟩

theorem find_eq_none_iff : s.find k = none ↔ k ∉ s.keys := findIn_eq_none_iff

theorem contains_iff : s.contains k = true ↔ k ∈ s.keys := by
  rw [contains, Option.isSome_iff_ne_none, Ne, find_eq_none_iff, not_not]

theorem mem_keys_of_find (h : s.find k = some a) : k ∈ s.keys := by
  by_contra hk
  simp [find_eq_none_iff.mpr hk] at h

theorem mem_of_findIn {l : List (κ × α)} (h : findIn k l = some a) : (k, a) ∈ l := by
  induction l with
  | nil => simp [findIn] at h
  | cons e rest ih =>
    rw [findIn] at h
    by_cases he : e.1 = k
    · rw [if_pos he] at h
      exact List.mem_cons.mpr (.inl (Prod.ext he.symm (Option.some.inj h).symm))
    · rw [if_neg he] at h
      exact List.mem_cons_of_mem _ (ih h)

theorem findIn_of_mem {l : List (κ × α)} (hl : (l.map Prod.fst).Nodup) (h : (k, a) ∈ l) :
    findIn k l = some a := by
  induction l with
  | nil => simp at h
  | cons e rest ih =>
    rw [List.map_cons, List.nodup_cons] at hl
    rcases List.mem_cons.mp h with rfl | h
    · exact if_pos rfl
    · have he : e.1 ≠ k := fun he => hl.1 (he ▸ List.mem_map_of_mem (f := Prod.fst) h)
      rw [findIn, if_neg he]
      exact ih hl.2 h

/-- Entries whose keys pass a test. -/
theorem findIn_filter_keys (p : κ → Bool) (k : κ) (l : List (κ × α)) :
    findIn k (l.filter fun e => p e.1) = if p k then findIn k l else none := by
  induction l with
  | nil => simp [findIn]
  | cons e rest ih =>
    rw [List.filter_cons]
    by_cases he : e.1 = k
    · cases hp : p k <;> simp [findIn, he, hp, ih]
    · cases hp : p e.1 <;> simp [findIn, he, ih]

theorem find_map (s : Keyed κ α) (f : α → α) (k : κ) :
    (⟨s.entries.map fun e => (e.1, f e.2)⟩ : Keyed κ α).find k = (s.find k).map f := by
  obtain ⟨l⟩ := s
  simp only [find]
  induction l with
  | nil => rfl
  | cons e rest ih =>
    rw [List.map_cons, findIn, findIn, ih]
    split <;> rfl

/-- Once a key was given a value there is its entry, beside some of those that were there. -/
theorem mem_setIn {l : List (κ × α)} {e : κ × α} (h : e ∈ setIn k a l) : e = (k, a) ∨ e ∈ l := by
  induction l with
  | nil => exact .inl (List.mem_singleton.mp h)
  | cons e' rest ih =>
    rw [setIn] at h
    split at h
    · exact (List.mem_cons.mp h).imp_right (List.mem_cons_of_mem _)
    · rcases List.mem_cons.mp h with rfl | h
      · exact .inr List.mem_cons_self
      · exact (ih h).imp_right (List.mem_cons_of_mem _)

theorem mem_set {e : κ × α} (h : e ∈ (s.set k a).entries) : e = (k, a) ∨ e ∈ s.entries :=
  mem_setIn h

theorem keys_setIn (k : κ) (a : α) (l : List (κ × α)) :
    (setIn k a l).map Prod.fst
      = if k ∈ l.map Prod.fst then l.map Prod.fst else l.map Prod.fst ++ [k] := by
  induction l with
  | nil => simp [setIn]
  | cons e rest ih =>
    rw [setIn]
    by_cases he : e.1 = k
    · simp [he]
    · rw [if_neg he, List.map_cons, ih, List.map_cons]
      by_cases hk : k ∈ rest.map Prod.fst
      · rw [if_pos hk, if_pos (List.mem_cons_of_mem _ hk)]
      · rw [if_neg hk, if_neg (by simpa [Ne.symm he] using hk), List.cons_append]

theorem keys_set_new (h : k ∉ s.keys) : (s.set k a).keys = s.keys ++ [k] :=
  (keys_setIn ..).trans (if_neg h)

theorem keys_set (h : k ∈ s.keys) : (s.set k a).keys = s.keys := (keys_setIn ..).trans (if_pos h)

theorem mem_keys_set : k' ∈ (s.set k a).keys ↔ k' = k ∨ k' ∈ s.keys := by
  by_cases hk : k ∈ s.keys
  · rw [keys_set hk]
    exact ⟨.inr, fun h => h.elim (fun h => h ▸ hk) id⟩
  · rw [keys_set_new hk, List.mem_append, List.mem_singleton]
    exact Or.comm

theorem contains_set (s : Keyed κ α) (k k' : κ) (a : α) :
    (s.set k a).contains k' = (decide (k' = k) || s.contains k') := by
  rw [Bool.eq_iff_iff, contains_iff, mem_keys_set, Bool.or_eq_true, decide_eq_true_eq, contains_iff]

theorem nodup_set (h : s.keys.Nodup) (k : κ) (a : α) : (s.set k a).keys.Nodup := by
  by_cases hk : k ∈ s.keys
  · rwa [keys_set hk]
  · rw [keys_set_new hk]
    exact List.nodup_append.mpr ⟨h, List.nodup_singleton k,
      fun x hx y hy hxy => hk (List.mem_singleton.mp hy ▸ hxy ▸ hx)⟩

theorem keys_erase (s : Keyed κ α) (k : κ) : (s.erase k).keys = s.keys.filter (· ≠ k) := by
  rw [keys, keys, erase, List.filter_map]
  rfl

theorem contains_erase (s : Keyed κ α) (k k' : κ) :
    (s.erase k).contains k' = (decide (k' ≠ k) && s.contains k') := by
  rw [Bool.eq_iff_iff, contains_iff, keys_erase, List.mem_filter, Bool.and_eq_true, contains_iff,
    and_comm]

theorem nodup_erase (h : s.keys.Nodup) (k : κ) : (s.erase k).keys.Nodup := by
  rw [keys_erase]
  exact h.filter _

/-! ### One key, again -/

theorem set_set (s : Keyed κ α) (k : κ) (a b : α) : (s.set k a).set k b = s.set k b := by
  obtain ⟨l⟩ := s
  simp only [set, mk.injEq]
  induction l with
  | nil => simp [setIn]
  | cons e rest ih => by_cases he : e.1 = k <;> simp [setIn, he, ih]

theorem set_of_find (h : s.find k = some a) : s.set k a = s := by
  obtain ⟨l⟩ := s
  simp only [find, set, mk.injEq] at h ⊢
  induction l with
  | nil => simp [findIn] at h
  | cons e rest ih =>
    rw [findIn] at h
    rw [setIn]
    by_cases he : e.1 = k
    · rw [if_pos he] at h ⊢
      rw [← he, ← Option.some.inj h]
    · rw [if_neg he] at h ⊢
      rw [ih h]

theorem erase_set (h : k ∈ s.keys) (a : α) : (s.set k a).erase k = s.erase k := by
  obtain ⟨l⟩ := s
  simp only [keys, set, erase, mk.injEq] at h ⊢
  induction l with
  | nil => simp at h
  | cons e rest ih =>
    rw [setIn]
    by_cases he : e.1 = k
    · simp [he]
    · rw [if_neg he, List.filter_cons, List.filter_cons]
      rw [List.map_cons, List.mem_cons] at h
      rw [ih (h.resolve_left (Ne.symm he))]

/-! ### Counts after an operation -/

theorem countP_setIn {l : List (κ × α)} (h : findIn k l = some a) (b : α) (P : α → Bool) :
    (setIn k b l).countP (fun e => P e.2) + (if P a then 1 else 0)
      = l.countP (fun e => P e.2) + if P b then 1 else 0 := by
  induction l with
  | nil => simp [findIn] at h
  | cons e rest ih =>
    rw [findIn] at h
    rw [setIn]
    by_cases he : e.1 = k
    · rw [if_pos he] at h ⊢
      simp only [List.countP_cons, ← Option.some.inj h]
      omega
    · rw [if_neg he] at h ⊢
      simp only [List.countP_cons]
      have := ih h
      omega

/-- A key gets another value. -/
theorem countP_set (h : s.find k = some a) (b : α) (P : α → Bool) :
    (s.set k b).countP P + (if P a then 1 else 0) = s.countP P + if P b then 1 else 0 :=
  countP_setIn h b P

/-- A key gets its first value. -/
theorem countP_set_new (h : s.find k = none) (b : α) (P : α → Bool) :
    (s.set k b).countP P = s.countP P + if P b then 1 else 0 := by
  have hset : ∀ l : List (κ × α), findIn k l = none →
      setIn k b l = l ++ [(k, b)] := by
    intro l hl
    induction l with
    | nil => rfl
    | cons e rest ih =>
      rw [findIn] at hl
      by_cases he : e.1 = k
      · simp [he] at hl
      · rw [if_neg he] at hl
        rw [setIn, if_neg he, ih hl, List.cons_append]
  rw [countP, set, hset _ h, List.countP_append, List.countP_singleton]
  rfl

/-- A key loses its value. -/
theorem countP_erase (hs : s.keys.Nodup) (h : s.find k = some a) (P : α → Bool) :
    (s.erase k).countP P + (if P a then 1 else 0) = s.countP P := by
  obtain ⟨l⟩ := s
  simp only [find, keys, countP, erase] at h hs ⊢
  induction l with
  | nil => simp [findIn] at h
  | cons e rest ih =>
    rw [findIn] at h
    rw [List.map_cons, List.nodup_cons] at hs
    by_cases he : e.1 = k
    · -- All entries behind are of other keys and stay.
      rw [if_pos he] at h
      have hrest : rest.filter (·.1 ≠ k) = rest := List.filter_eq_self.mpr fun e' he' =>
        decide_eq_true fun hk => hs.1 (he.trans hk.symm ▸ List.mem_map_of_mem he')
      rw [List.filter_cons, if_neg (by simpa using he), hrest, List.countP_cons,
        Option.some.inj h]
    · rw [if_neg he] at h
      rw [List.filter_cons, if_pos (by simpa using he), List.countP_cons, List.countP_cons]
      have := ih hs.2 h
      omega

theorem length_le_countP {ks : List κ} (hk : ks.Nodup)
    (h : ∀ k ∈ ks, ∃ a, s.find k = some a ∧ P a = true) : ks.length ≤ s.countP P := by
  -- Each key has its own entry among those that are counted.
  have hsub : ks ⊆ (s.entries.filter fun e => P e.2).map Prod.fst := by
    intro k hmem
    obtain ⟨a, hf, hP⟩ := h k hmem
    exact List.mem_map.mpr ⟨(k, a), List.mem_filter.mpr ⟨mem_of_findIn hf, hP⟩, rfl⟩
  calc ks.length ≤ ((s.entries.filter fun e => P e.2).map Prod.fst).length :=
        (List.subperm_of_subset hk hsub).length_le
    _ = s.countP P := by rw [List.length_map, countP, List.countP_eq_length_filter]

end HttpGateway.Keyed
