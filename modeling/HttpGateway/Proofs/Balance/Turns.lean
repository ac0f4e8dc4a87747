/-
What plain turns come to over many choices.

* **Ask** — a choice that is asked for: under some key, among some candidates.
* **RoundRobin.turns** — the turns of one key, each with the value of the counter that it takes.
* `turns_eq` — each turn takes the value after the one before it, whatever is chosen under other
  keys or among fewer than two candidates in between.
* `count_positions` — how often a position is picked when values in a row go round.
* `turns_take_values` — so no value is taken twice and none is left out; and where the number of
  candidates stays the same they are picked in a circle, each as often as any other one, up to one.
-/
import HttpGateway.Balance.RoundRobin
import Mathlib.Data.Int.CardIntervalMod

namespace HttpGateway.Balance

/-- A choice that is asked for: its key, and the number of candidates. -/
structure Ask where
  key : String
  count : Nat

/-- Whether a turn of a key is taken. With fewer than two candidates there is nothing to choose. -/
def Ask.Takes (key : String) (a : Ask) : Prop := a.key = key ∧ 2 ≤ a.count

instance (key : String) : DecidablePred (Ask.Takes key) := fun _ =>
  inferInstanceAs (Decidable (_ ∧ _))

/-- A turn: the value of the counter that it takes, the number of candidates, and the position that
is picked. -/
structure Turn where
  value : Nat
  count : Nat
  picked : Option Nat
deriving DecidableEq

namespace RoundRobin

variable {b : RoundRobin} {key : String} {asks : List Ask} {a : Ask}

/-- The turns of a key among all that is asked for. -/
def turns (b : RoundRobin) (key : String) : List Ask → List Turn
  | [] => []
  | a :: rest =>
    let chosen := b.choose a.key a.count
    if a.Takes key then ⟨b.counter key, a.count, chosen.1⟩ :: chosen.2.turns key rest
    else chosen.2.turns key rest

/-- What a turn takes off the counter of its key. -/
theorem choose_takes (b : RoundRobin) (h : a.Takes key) :
    b.choose a.key a.count = (some (b.counter key % a.count), b.advance key) := by
  obtain ⟨k, count⟩ := a
  obtain ⟨rfl, hcount⟩ := h
  obtain ⟨n, rfl⟩ := Nat.exists_eq_add_of_le' hcount
  rfl

/-- A choice that takes no turn of a key leaves its counter alone. -/
theorem counter_choose_other (b : RoundRobin) (h : ¬ a.Takes key) :
    (b.choose a.key a.count).2.counter key = b.counter key := by
  obtain ⟨k, count⟩ := a
  rcases count with _ | _ | n
  · rfl
  · rfl
  · have hkey : k ≠ key := fun hkey => h ⟨hkey, Nat.le_add_left 2 n⟩
    exact counter_advance_other b hkey

/-- The value that a counter has next; after the largest one comes zero. -/
def nextValue (v : Nat) : Nat := (v + 1) % counterBound

theorem iterate_nextValue {c i : Nat} (h : c + i < counterBound) : nextValue^[i] c = c + i := by
  induction i with
  | zero => rfl
  | succ i ih =>
    rw [Function.iterate_succ_apply', ih (Nat.lt_of_succ_lt h), nextValue, Nat.add_assoc,
      Nat.mod_eq_of_lt h]

/-- Each turn takes the value after that of the turn before it. -/
theorem turns_eq (b : RoundRobin) (key : String) (asks : List Ask) :
    b.turns key asks = (asks.filter (·.Takes key)).mapIdx fun i a =>
      ⟨nextValue^[i] (b.counter key), a.count,
        some (nextValue^[i] (b.counter key) % a.count)⟩ := by
  induction asks generalizing b with
  | nil => rfl
  | cons a rest ih =>
    rw [turns]
    by_cases ha : a.Takes key
    · have hnext : (b.advance key).counter key = nextValue (b.counter key) :=
        counter_advance_self b key
      rw [choose_takes b ha, if_pos ha, ih, List.filter_cons_of_pos (by simpa using ha), hnext]
      simp only [List.mapIdx_cons, Function.iterate_zero_apply, Function.iterate_succ_apply]
    · rw [if_neg ha, ih, counter_choose_other b ha, List.filter_cons_of_neg (by simpa using ha)]

/-- As long as no value wraps, each turn is known by its place among the turns. -/
theorem turns_of_fits
    (hfits : b.counter key + (asks.filter (·.Takes key)).length ≤ counterBound) :
    b.turns key asks = (asks.filter (·.Takes key)).mapIdx fun i a =>
      ⟨b.counter key + i, a.count, some ((b.counter key + i) % a.count)⟩ := by
  rw [turns_eq, List.mapIdx_eq_mapIdx_iff]
  intro i hi
  rw [iterate_nextValue (Nat.lt_of_lt_of_le (Nat.add_lt_add_left hi _) hfits)]

/-- Where there are always as many candidates, the turns go round. -/
theorem picked_of_fits {k : Nat}
    (hfits : b.counter key + (asks.filter (·.Takes key)).length ≤ counterBound)
    (hcounts : ∀ a ∈ asks, a.key = key → a.count = k ∨ a.count < 2) :
    (b.turns key asks).map (·.picked) = (List.range (b.turns key asks).length).map fun i =>
      some ((b.counter key + i) % k) := by
  have hsame : ∀ a ∈ asks.filter (·.Takes key), a.count = k := by
    intro a ha
    obtain ⟨hmem, htakes⟩ := List.mem_filter.mp ha
    obtain ⟨hkey, hmany⟩ := of_decide_eq_true htakes
    exact (hcounts a hmem hkey).resolve_right (Nat.not_lt.mpr hmany)
  rw [turns_of_fits hfits, List.length_mapIdx]
  refine List.ext_getElem (by simp) fun i hi _ => ?_
  simp only [List.getElem_mapIdx, List.getElem_map, List.getElem_range,
    hsame _ (List.getElem_mem _)]

end RoundRobin

/-- Of values in a row each remainder comes as often as any other one, up to one. -/
theorem count_positions {k j : Nat} (hj : j < k) (c n : Nat) :
    ((List.range n).map fun i => (c + i) % k).count j = n / k ∨
      ((List.range n).map fun i => (c + i) % k).count j = (n + (k - 1)) / k := by
  have hk : 0 < k := Nat.zero_lt_of_lt hj
  have hcount : ((List.range n).map fun i => (c + i) % k).count j
      = Nat.count (fun i => c + i ≡ j [MOD k]) n := by
    rw [List.count, List.countP_map, Nat.count]
    refine List.countP_congr fun i _ => ?_
    simp [Nat.ModEq, Nat.mod_eq_of_lt hj]
  have hsplit := Nat.count_add (· ≡ j [MOD k]) c n
  rw [Nat.count_modEq_card _ hk, Nat.count_modEq_card _ hk, Nat.mod_eq_of_lt hj, ← hcount,
    Nat.add_div hk, Nat.add_mod] at hsplit
  have hup : (n + (k - 1)) / k = n / k + if k ≤ n % k + (k - 1) then 1 else 0 := by
    have hlt : k - 1 < k := Nat.sub_one_lt hk.ne'
    rw [Nat.add_div hk, Nat.div_eq_of_lt hlt, Nat.mod_eq_of_lt hlt]
    rfl
  rw [hup]
  have hc := Nat.mod_lt c hk
  have hn := Nat.mod_lt n hk
  generalize c % k = r at *
  generalize n % k = s at *
  by_cases hover : k ≤ r + s
  · rw [Nat.mod_eq_sub_mod hover, Nat.mod_eq_of_lt (by omega), if_pos hover] at hsplit
    split_ifs at hsplit ⊢ <;> omega
  · rw [Nat.mod_eq_of_lt (by omega), if_neg hover] at hsplit
    split_ifs at hsplit ⊢ <;> omega

/-- **Turns take one value after another.** As long as the counter of a key does not come to its
end, the choices under the key among two or more candidates take its values in a row, each of them
once, whatever else is chosen in between: under other keys, or under this one among fewer
candidates. The value decides which of the candidates is picked, however many there are each time.
Where there are always as many, they are picked in a circle, from the place to which the counter
points; so each of them is picked as often as the turns divided by the candidates, rounded down or
up. -/
theorem turns_take_values {b : RoundRobin} {key : String} {asks : List Ask}
    (hfits : b.counter key + (asks.filter (·.Takes key)).length ≤ RoundRobin.counterBound) :
    let c := b.counter key
    let turns := b.turns key asks
    turns.map (·.count) = (asks.filter (·.Takes key)).map (·.count) ∧
    turns.map (·.value) = List.range' c turns.length ∧
    (∀ t ∈ turns, t.picked = some (t.value % t.count)) ∧
    ∀ k, (∀ a ∈ asks, a.key = key → a.count = k ∨ a.count < 2) →
      turns.map (·.picked) = (List.range turns.length).map (fun i => some ((c + i) % k)) ∧
      ∀ j < k, (turns.map (·.picked)).count (some j) = turns.length / k ∨
        (turns.map (·.picked)).count (some j) = (turns.length + (k - 1)) / k := by
  intro c turns
  have hturns : turns = _ := RoundRobin.turns_of_fits hfits
  refine ⟨?_, ?_, ?_, fun k hcounts => ?_⟩
  · rw [hturns]
    exact List.ext_getElem (by simp) (by simp)
  · rw [hturns, List.length_mapIdx]
    exact List.ext_getElem (by simp) (by simp [c])
  · intro t ht
    rw [hturns] at ht
    obtain ⟨i, hi, rfl⟩ := List.mem_mapIdx.mp ht
    rfl
  · have hcircle : turns.map (·.picked)
        = (List.range turns.length).map fun i => some ((c + i) % k) :=
      RoundRobin.picked_of_fits hfits hcounts
    refine ⟨hcircle, fun j hj => ?_⟩
    have hinj : (turns.map (·.picked)).count (some j)
        = ((List.range turns.length).map fun i => (c + i) % k).count j := by
      rw [hcircle, ← List.count_map_of_injective _ _ (Option.some_injective Nat), List.map_map]
      rfl
    rw [hinj]
    exact count_positions hj c turns.length

/-- The counter of a key runs up to its end, with choices under a key that is not known yet and
among too few candidates in between. -/
theorem turns_take_values_last :
    let b : RoundRobin := ⟨⟨[("a", RoundRobin.counterBound - 4)]⟩⟩
    let asks : List Ask :=
      [⟨"a", 3⟩, ⟨"b", 3⟩, ⟨"a", 1⟩, ⟨"a", 3⟩, ⟨"b", 2⟩, ⟨"a", 0⟩, ⟨"a", 3⟩, ⟨"a", 3⟩]
    let turns := b.turns "a" asks
    b.counter "a" + (asks.filter (·.Takes "a")).length ≤ RoundRobin.counterBound ∧
      turns.map (·.value) = List.range' (RoundRobin.counterBound - 4) 4 ∧
      turns.map (·.picked) = [some 0, some 1, some 2, some 0] ∧
      (turns.map (·.picked)).count (some 0) = (4 + (3 - 1)) / 3 := by
  intro b asks turns
  have hfits : b.counter "a" + (asks.filter (·.Takes "a")).length ≤ RoundRobin.counterBound := by
    decide
  obtain ⟨-, hvalues, -, hcircle⟩ := turns_take_values hfits
  obtain ⟨hpicked, hshares⟩ := hcircle 3 (by decide)
  refine ⟨hfits, hvalues, hpicked.trans (by decide), (hshares 0 (by decide)).resolve_left ?_⟩
  rw [hpicked]
  decide

end HttpGateway.Balance
