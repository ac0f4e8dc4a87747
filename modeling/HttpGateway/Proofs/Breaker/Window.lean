/-
A window counts the outcomes of the last seconds.

A window has no more than one bucket for each remainder of the seconds, and a bucket is only emptied
when the next outcome reaches it. As long as outcomes come in the order of their seconds this loses
nothing: at any later second the sum over the buckets is the tally of the outcomes whose second is
still covered. **Window.Mirrors** says so of a window and a list of outcomes; a window that was
cleared mirrors the empty list (`mirrors_clear`), and one more outcome on both sides keeps it
(`Mirrors.record`).
-/
import HttpGateway.Breaker.Window
import Mathlib.Algebra.BigOperators.Group.List.Basic
import Mathlib.Data.Nat.ModEq

namespace HttpGateway.Breaker

/-- What became of a call, and the second in which it was told. -/
structure Outcome where
  second : Nat
  failure : Bool
  slow : Bool
deriving DecidableEq, Repr

/-- Whether an outcome lies in the last `length` seconds, the second `now` being the last one. -/
def Outcome.within (length now : Nat) (o : Outcome) : Bool :=
  o.second ≤ now && now < o.second + length

/-- How many outcomes there are, and how many of them are failures and how many slow. -/
def tally (outcomes : List Outcome) : Totals where
  calls := outcomes.length
  failures := outcomes.countP (·.failure)
  slow := outcomes.countP (·.slow)

namespace Totals

attribute [ext] Totals

instance : Add Totals := ⟨add⟩

instance : Zero Totals := ⟨{}⟩

instance : AddCommMonoid Totals where
  add_assoc a b c := Totals.ext (Nat.add_assoc ..) (Nat.add_assoc ..) (Nat.add_assoc ..)
  zero_add a := Totals.ext (Nat.zero_add _) (Nat.zero_add _) (Nat.zero_add _)
  add_zero a := Totals.ext (Nat.add_zero _) (Nat.add_zero _) (Nat.add_zero _)
  add_comm a b := Totals.ext (Nat.add_comm ..) (Nat.add_comm ..) (Nat.add_comm ..)
  nsmul := nsmulRec

theorem count_eq_add (t : Totals) (failure slow : Bool) :
    t.count failure slow = t + ({} : Totals).count failure slow :=
  Totals.ext rfl (congrArg (t.failures + ·) (Nat.zero_add _).symm)
    (congrArg (t.slow + ·) (Nat.zero_add _).symm)

end Totals

@[simp] theorem tally_nil : tally [] = 0 := rfl

theorem tally_cons (o : Outcome) (outcomes : List Outcome) :
    tally (o :: outcomes) = (tally outcomes).count o.failure o.slow := by
  have hcount : ∀ b : Bool, (if b then 1 else 0) = b.toNat := fun b => by cases b <;> rfl
  simp only [tally, Totals.count, List.length_cons, List.countP_cons, hcount]

/-- One summand more is as much more in the sum. -/
theorem sum_map_set {α M : Type} [AddCommMonoid M] (f : α → M) {a b : α} {c : M}
    (hb : f b = f a + c) : ∀ {l : List α} {i : Nat}, l[i]? = some a →
      ((l.set i b).map f).sum = (l.map f).sum + c := by
  intro l
  induction l with
  | nil =>
    intro i h
    simp at h
  | cons x l ih =>
    intro i h
    rcases i with _ | i
    · obtain rfl : x = a := by simpa using h
      simp only [List.set_cons_zero, List.map_cons, List.sum_cons, hb]
      rw [add_right_comm]
    · simp only [List.set_cons_succ, List.map_cons, List.sum_cons]
      rw [ih (by simpa using h), add_assoc]

namespace Window

/-! ### The sum over the buckets -/

/-- What a bucket contributes to the sum at a second. -/
def share (w : Window) (now : Nat) (b : Bucket) : Totals := if w.covers now b then b.counts else 0

theorem totals_eq_sum (w : Window) (now : Nat) :
    w.totals now = (w.buckets.map (w.share now)).sum := by
  -- The fold starts anywhere, so that the induction can move its start.
  have key : ∀ (l : List Bucket) (t : Totals),
      ((l.filter (w.covers now)).map (·.counts)).foldl Totals.add t
        = t + (l.map (w.share now)).sum := by
    intro l
    induction l with
    | nil =>
      intro t
      exact (add_zero t).symm
    | cons b l ih =>
      intro t
      rw [List.map_cons, List.sum_cons, share, List.filter_cons]
      by_cases hb : w.covers now b = true
      · rw [if_pos hb, if_pos hb, List.map_cons, List.foldl_cons, ih, ← add_assoc]
        rfl
      · rw [if_neg hb, if_neg hb, ih, zero_add]
  exact (key w.buckets {}).trans (zero_add _)

/-- Every bucket is empty, or it is in the place for its second, which is not after `last`. -/
def Placed (w : Window) (last : Nat) : Prop :=
  ∀ i b, w.buckets[i]? = some b →
    b.counts = 0 ∨ b.second % w.length = i ∧ b.second ≤ last ∧ 0 < b.counts.calls

theorem share_self (w : Window) {last : Nat} (h : w.Placed last) {i : Nat} {b : Bucket}
    (hb : w.buckets[i]? = some b) {now : Nat} (hs : b.second ≤ now) :
    w.share now b = if now < b.second + w.length then b.counts else 0 := by
  rw [share]
  rcases h i b hb with h0 | ⟨-, -, hpos⟩
  · simp [h0]
  · by_cases hn : now < b.second + w.length <;> simp [covers, hs, hn, hpos]

/-- Two seconds for one bucket are a whole window apart. -/
theorem add_length_le {length a b : Nat} (h : a % length = b % length) (hab : a < b) :
    a + length ≤ b := by
  have hdvd : length ∣ b - a := (Nat.modEq_iff_dvd' hab.le).mp h
  have := Nat.le_of_dvd (by omega) hdvd
  omega

/-- What the bucket contributes that an outcome of the second `second` reaches, before and after:
an outcome of an earlier second is too old to be counted by then. -/
theorem share_bucketFor {w : Window} {last second now : Nat} (h : w.Placed last)
    (hlast : last ≤ second) (hnow : second ≤ now) {b : Bucket}
    (hb : w.buckets[second % w.length]? = some b) (failure slow : Bool) :
    w.share now { w.bucketFor second with counts := (w.bucketFor second).counts.count failure slow }
      = w.share now b +
        if now < second + w.length then ({} : Totals).count failure slow else 0 := by
  have hnew : ∀ t : Totals, w.share now ⟨second, t.count failure slow⟩
      = if now < second + w.length then t.count failure slow else 0 := by
    intro t
    by_cases hn : now < second + w.length <;> simp [share, covers, Totals.count, hnow, hn]
  by_cases hs : b.second = second
  · -- the bucket is of this very second and goes on counting
    have hfor : w.bucketFor second = b := by simp [bucketFor, hb, hs]
    obtain ⟨last', counts⟩ := b
    subst hs
    rw [hfor, share_self w h hb hnow]
    refine (hnew counts).trans ?_
    by_cases hn : now < last' + w.length
    · rw [if_pos hn, if_pos hn, if_pos hn, Totals.count_eq_add]
    · rw [if_neg hn, if_neg hn, if_neg hn, add_zero]
  · -- the bucket is emptied; what was in it is a whole window old
    have hfor : w.bucketFor second = { second } := by simp [bucketFor, hb, hs]
    have hold : w.share now b = 0 := by
      rcases h _ b hb with h0 | ⟨hmod, hle, -⟩
      · simp [share, h0]
      · have := add_length_le (hmod.trans rfl) (lt_of_le_of_ne (hle.trans hlast) hs)
        rw [share_self w h hb (by omega), if_neg (by omega)]
    rw [hfor, hnew, hold, zero_add]

/-- One more outcome is one more in the sum, for as long as its second is covered. -/
theorem totals_record {w : Window} {last second now : Nat} (h : w.Placed last)
    (hlast : last ≤ second) (hnow : second ≤ now) (failure slow : Bool) :
    (w.record second failure slow).totals now
      = w.totals now + if now < second + w.length then ({} : Totals).count failure slow else 0 := by
  rw [totals_eq_sum, totals_eq_sum]
  rcases Nat.eq_zero_or_pos w.length with h0 | hpos
  · -- a window of no seconds has no buckets and covers nothing
    have hnil : w.buckets = [] := List.length_eq_zero_iff.mp h0
    rw [if_neg (by omega)]
    simp [record, hnil]
  · have hlt : second % w.length < w.buckets.length := Nat.mod_lt _ hpos
    have hb := List.getElem?_eq_getElem hlt
    have hshare : (w.record second failure slow).share now = w.share now := by
      funext b
      simp [share, covers]
    rw [hshare]
    exact sum_map_set _ (share_bucketFor h hlast hnow hb failure slow) hb

theorem second_bucketFor (w : Window) (second : Nat) : (w.bucketFor second).second = second := by
  unfold bucketFor
  split
  · split
    · assumption
    · rfl
  · rfl

theorem Placed.record {w : Window} {last second : Nat} (h : w.Placed last) (hlast : last ≤ second)
    (failure slow : Bool) : (w.record second failure slow).Placed second := by
  intro i b hb
  rw [length_record]
  rw [Window.record, List.getElem?_set] at hb
  split at hb
  · next hi =>
    split at hb
    · obtain rfl := Option.some.inj hb
      have hs := w.second_bucketFor second
      exact .inr ⟨by rw [hs, hi], hs.le, by simp [Totals.count]⟩
    · simp at hb
  · rcases h i b hb with h0 | ⟨hmod, hle, hpos⟩
    · exact .inl h0
    · exact .inr ⟨hmod, hle.trans hlast, hpos⟩

/-! ### A window and the outcomes that it counts -/

/-- A window counts these outcomes: none of them is after the second `last`, and from then on the
sum over the buckets is the tally of those that are still covered. -/
structure Mirrors (w : Window) (outcomes : List Outcome) (last : Nat) : Prop where
  placed : w.Placed last
  totals_eq : ∀ now, last ≤ now → w.totals now = tally (outcomes.filter (·.within w.length now))

theorem mirrors_empty (length last : Nat) : (empty length).Mirrors [] last where
  placed i b hb := by
    simp only [empty, List.getElem?_replicate] at hb
    split at hb
    · exact .inl (by rw [← Option.some.inj hb]; rfl)
    · simp at hb
  totals_eq now _ := by
    rw [totals_eq_sum]
    simp [empty, share, covers]

theorem mirrors_clear (w : Window) (last : Nat) : w.clear.Mirrors [] last :=
  mirrors_empty w.length last

theorem Mirrors.later {w : Window} {outcomes : List Outcome} {last last' : Nat}
    (h : w.Mirrors outcomes last) (hle : last ≤ last') : w.Mirrors outcomes last' where
  placed i b hb := (h.placed i b hb).imp_right fun ⟨hmod, hs, hpos⟩ => ⟨hmod, hs.trans hle, hpos⟩
  totals_eq now hnow := h.totals_eq now (hle.trans hnow)

theorem Mirrors.record {w : Window} {outcomes : List Outcome} {last : Nat}
    (h : w.Mirrors outcomes last) {o : Outcome} (ho : last ≤ o.second) :
    (w.record o.second o.failure o.slow).Mirrors (o :: outcomes) o.second where
  placed := h.placed.record ho _ _
  totals_eq now hnow := by
    rw [totals_record h.placed ho hnow, h.totals_eq now (ho.trans hnow), length_record,
      List.filter_cons]
    by_cases hn : now < o.second + w.length
    · rw [if_pos hn, if_pos (by simp [Outcome.within, hnow, hn]), tally_cons, ← Totals.count_eq_add]
    · rw [if_neg hn, if_neg (by simp [Outcome.within, hn]), add_zero]

end Window

end HttpGateway.Breaker
