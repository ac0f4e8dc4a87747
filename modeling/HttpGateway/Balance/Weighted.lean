/-
Taking turns by weight.

The turns go round by levels. At the first level only the heaviest candidates are picked; the level
then falls by the greatest common divisor of all weights with every round, and a candidate is picked
when its weight reaches the level. When the level has come down to zero it starts at the top again.

* **Rotation** — the weights, the position that was looked at last and the level.
* **Rotation.look** — moves on by one position.
* **Rotation.seek** — moves on to the next position that is picked.
* **Weighted.choose** — one rotation for each key, which starts anew when the weights have changed.
-/
import HttpGateway.Keyed

namespace HttpGateway.Balance

/-- The turns of a list of candidates. -/
structure Rotation where
  weights : List Nat
  last : Option Nat
  level : Nat
deriving DecidableEq, Repr, Inhabited

namespace Rotation

/-- Before the first turn. -/
def start (weights : List Nat) : Rotation := ⟨weights, none, 0⟩

/-- The highest level. -/
def top (r : Rotation) : Nat := max (r.weights.foldl max 0) 1

/-- How far the level falls with each round. -/
def step (r : Rotation) : Nat := max (r.weights.foldl Nat.gcd 0) 1

/-- The level of the next round. -/
def nextLevel (r : Rotation) : Nat :=
  if r.level - r.step = 0 then r.top else r.level - r.step

/-- The position after the last one. -/
def nextPosition (r : Rotation) : Nat :=
  match r.last with
  | some i => (i + 1) % r.weights.length
  | none => 0

/-- Moves on by one position; a new round starts at position zero. -/
def look (r : Rotation) : Rotation :=
  let i := r.nextPosition
  { r with last := some i, level := if i = 0 then r.nextLevel else r.level }

/-- The weight at the position that was looked at last. -/
def weightAtLast (r : Rotation) : Nat := (r.last.bind (r.weights[·]?)).getD 0

/-- Whether the position that was looked at last is picked. -/
def picks (r : Rotation) : Bool := r.level ≤ r.weightAtLast

/-- Moves on until a position is picked; looks at no more than `fuel` positions. -/
def seek : Nat → Rotation → Option Rotation
  | 0, _ => none
  | fuel + 1, r => if r.look.picks then some r.look else seek fuel r.look

/-- The next turn. One round is enough to find it: where the rest of a round picks nothing, the new
round starts at a level that the heaviest candidates, which come before its end, reach. -/
def next (r : Rotation) : Rotation := (seek r.weights.length r).getD r

end Rotation

/-- The rotations of all keys. -/
structure Weighted where
  rotations : Keyed String Rotation
deriving Inhabited

namespace Weighted

def empty : Weighted := ⟨.empty⟩

/-- The rotation of a key for the given weights. -/
def rotation (b : Weighted) (key : String) (weights : List Nat) : Rotation :=
  match b.rotations.find key with
  | some r => if r.weights = weights then r else .start weights
  | none => .start weights

/-- The position whose turn it is among candidates with these weights. A weight of zero counts as
one; with fewer than two candidates there is nothing to choose. -/
def choose (b : Weighted) (key : String) (weights : List Nat) : Option Nat × Weighted :=
  match weights with
  | [] => (none, b)
  | [_] => (some 0, b)
  | _ =>
    let r := (b.rotation key (weights.map (max · 1))).next
    (r.last, ⟨b.rotations.set key r⟩)

end Weighted

end HttpGateway.Balance
