/-
Counting the outcomes of the last seconds.

* **Totals** — how many calls there were, and how many of them failed or were slow.
* **Window** — one bucket for each of as many seconds as the window is long. A bucket serves every
  second with the same remainder and starts anew with each.
* **Window.totals** — the sum over the seconds that the window covers at a given second.
-/
import HttpGateway.Number.Floating

namespace HttpGateway.Breaker

open Number

/-- Counts of calls. Counters of 32 bits hold them while there are fewer than `2 ^ 32` calls. -/
structure Totals where
  calls : Nat := 0
  failures : Nat := 0
  slow : Nat := 0
deriving DecidableEq, Repr, Inhabited

/-- A part as a percentage of a whole; none of nothing is nothing. -/
def percentage (part whole : Nat) : Floating :=
  if whole = 0 then .finite 0
  else
    let product := (Floating.ofNat .single part).mul .single (.finite 100)
    product.div .single (.ofNat .single whole)

namespace Totals

/-- Counts one more call. -/
def count (t : Totals) (failure slow : Bool) : Totals :=
  ⟨t.calls + 1, t.failures + failure.toNat, t.slow + slow.toNat⟩

def add (a b : Totals) : Totals := ⟨a.calls + b.calls, a.failures + b.failures, a.slow + b.slow⟩

def failureRate (t : Totals) : Floating := percentage t.failures t.calls

def slowRate (t : Totals) : Floating := percentage t.slow t.calls

end Totals

/-- The counts of one second. -/
structure Bucket where
  second : Nat := 0
  counts : Totals := {}
deriving DecidableEq, Repr, Inhabited

/-- One bucket for each remainder of the seconds. -/
structure Window where
  buckets : List Bucket
deriving DecidableEq, Repr, Inhabited

namespace Window

/-- A window of `length` seconds in which nothing is counted. -/
def empty (length : Nat) : Window := ⟨List.replicate length {}⟩

/-- How many seconds a window covers. -/
def length (w : Window) : Nat := w.buckets.length

/-- The bucket for a second, empty if it was last used for another one. -/
def bucketFor (w : Window) (second : Nat) : Bucket :=
  match w.buckets[second % w.length]? with
  | some b => if b.second = second then b else { second }
  | none => { second }

/-- Counts one call in a second. -/
def record (w : Window) (second : Nat) (failure slow : Bool) : Window :=
  let b := w.bucketFor second
  ⟨w.buckets.set (second % w.length) { b with counts := b.counts.count failure slow }⟩

/-- Whether a bucket counts at a second. -/
def covers (w : Window) (second : Nat) (b : Bucket) : Bool :=
  0 < b.counts.calls && second < b.second + w.length && b.second ≤ second

/-- The sum over the seconds that the window covers. -/
def totals (w : Window) (second : Nat) : Totals :=
  ((w.buckets.filter (w.covers second)).map (·.counts)).foldl Totals.add {}

/-- Forgets all counts. -/
def clear (w : Window) : Window := empty w.length

@[simp] theorem length_empty (n : Nat) : (empty n).length = n := by simp [length, empty]

@[simp] theorem length_record (w : Window) (second : Nat) (failure slow : Bool) :
    (w.record second failure slow).length = w.length := by
  simp [length, record]

@[simp] theorem length_clear (w : Window) : w.clear.length = w.length := by simp [clear]

end Window

end HttpGateway.Breaker
