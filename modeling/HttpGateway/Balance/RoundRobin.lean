/-
Taking turns.

* **RoundRobin** — a counter for each key, which starts at zero and wraps at 64 bits.
* **RoundRobin.choose** — the position whose turn it is among `count` candidates. With fewer than
  two candidates there is nothing to choose, and the counter stays.
-/
import HttpGateway.Keyed

namespace HttpGateway.Balance

/-- The counters of all keys. -/
structure RoundRobin where
  counters : Keyed String Nat
deriving Inhabited

namespace RoundRobin

def empty : RoundRobin := ⟨.empty⟩

/-- Counters have 64 bits. -/
def counterBound : Nat := Nat.pow 2 64

/-- The counter of a key. -/
def counter (b : RoundRobin) (key : String) : Nat := b.counters.findD key 0

/-- Moves the counter of a key on. -/
def advance (b : RoundRobin) (key : String) : RoundRobin :=
  ⟨b.counters.set key ((b.counter key + 1) % counterBound)⟩

/-- The position whose turn it is. -/
def choose (b : RoundRobin) (key : String) (count : Nat) : Option Nat × RoundRobin :=
  match count with
  | 0 => (none, b)
  | 1 => (some 0, b)
  | _ => (some (b.counter key % count), b.advance key)

theorem counter_advance_self (b : RoundRobin) (key : String) :
    (b.advance key).counter key = (b.counter key + 1) % counterBound := by
  simp [advance, counter, Keyed.findD]

theorem counter_advance_other (b : RoundRobin) {key key' : String} (h : key ≠ key') :
    (b.advance key).counter key' = b.counter key' := by
  simp [advance, counter, Keyed.findD, Keyed.find_set_other _ h]

end RoundRobin

end HttpGateway.Balance
