/-
Sets of code points, given by tables of ranges.

A table lists its ranges in ascending order as pairs of numbers: how many code points lie between
the end of the last range and the start of this one, and how many follow the first one in it.

* **Ranges.ofTable** — the ranges of a table.
* **Ranges.contains** — membership.
-/
import HttpGateway.Text.Numeral

namespace HttpGateway.Unicode

/-- The numbers of a table, which are separated by blanks and line ends. -/
def tableNumbers (table : String) : List Nat :=
  (table.toList.splitOnP Char.isWhitespace).filterMap fun ds =>
    if ds.isEmpty then none else Text.ofDigits? 10 ds

/-- Inclusive ranges of code points. -/
abbrev Ranges := List (Nat × Nat)

/-- The ranges that the numbers of a table stand for, the first of which is counted from `next`. -/
def Ranges.ofNumbers (next : Nat) : List Nat → Ranges
  | gap :: extra :: rest =>
    (next + gap, next + gap + extra) :: Ranges.ofNumbers (next + gap + extra + 1) rest
  | _ => []

/-- The ranges of a table. -/
def Ranges.ofTable (table : String) : Ranges :=
  Ranges.ofNumbers 0 (tableNumbers table)

/-- Whether a code point lies in one of the ranges. -/
def Ranges.contains (ranges : Ranges) (c : Char) : Bool :=
  ranges.any fun r => r.1 ≤ c.toNat && c.toNat ≤ r.2

end HttpGateway.Unicode
