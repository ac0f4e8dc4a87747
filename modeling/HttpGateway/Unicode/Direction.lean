/-
Properties of characters that decide whether a label may stand in a domain name.

* **isMark** — marks may not start a label.
* **Direction**, **direction** — the writing direction of a character.
* **Joining**, **joining** — whether a letter connects to its neighbours in a cursive script.
-/
import HttpGateway.Unicode.Ranges

namespace HttpGateway.Unicode

/-- The combining marks. -/
def marks : Ranges := Ranges.ofTable "
768 111 275 6 263 44 1 0 1 1 1 1 1 0 72 10 48 20 16 0 101 6 2 5 2 1 1 3 35 0 30 26 91 10 58 8 9 0
24 3 1 8 1 2 1 4 43 2 60 7 42 23 1 32 54 2 1 17 1 6 10 1 29 2 56 0 1 6 2 1 2 2 9 0 10 1 26 0 2 2
56 0 1 4 4 1 2 2 3 0 30 1 3 0 11 2 56 0 1 7 1 2 1 2 20 1 22 5 1 2 56 0 1 6 2 1 2 2 7 2 10 1 30 0
59 4 3 2 1 3 9 0 40 4 55 0 1 6 1 2 1 3 7 1 11 1 29 2 56 0 1 6 1 2 1 3 7 1 11 1 28 3 55 1 1 6 1 2 1
3 9 0 10 1 29 2 70 0 4 5 1 0 1 7 18 1 61 0 2 6 12 7 98 0 2 8 11 5 74 1 27 0 1 0 1 0 4 1 49 19 1 1
5 10 1 35 9 0 100 19 23 3 4 2 1 2 2 6 3 3 13 11 1 0 10 3 703 2 946 3 28 2 29 1 30 1 64 31 9 0 45 2
1 0 117 1 34 0 118 11 4 11 219 4 57 9 1 28 2 0 48 30 49 4 47 16 38 8 12 2 30 12 56 13 48 19 152 2
1 20 4 0 6 0 2 2 198 63 720 32 3070 2 141 0 96 31 554 5 105 1 30164 3 1 9 32 1 80 1 272 0 3 0 4 0
23 4 4 0 83 1 50 17 26 17 13 0 38 7 25 12 44 3 47 13 36 0 67 13 12 0 8 1 45 2 50 0 1 2 2 1 5 1 1 0
41 4 5 1 236 7 1 1 20272 0 737 15 16 15 973 0 226 0 149 4 1670 2 1 1 5 3 40 2 4 0 165 1 573 3 387
1 153 10 49 3 122 2 53 14 41 0 2 1 10 3 45 10 7 0 61 2 36 13 16 1 44 0 12 2 48 13 8 3 1 1 92 11 6
0 160 11 21 3 55 1 1 6 2 1 2 2 9 0 10 1 2 6 3 4 192 17 23 0 81 19 235 6 2 8 27 1 82 16 106 12 101
14 256 14 245 5 1 1 2 3 1 0 1 1 141 6 2 6 3 0 28 9 40 6 1 3 8 0 9 10 46 15 405 7 1 7 82 21 1 13
122 5 3 0 1 1 1 6 1 0 66 4 1 1 1 4 347 3 19449 4 59 6 1048 0 1 54 7 3 81 0 11 1 19627 1 4705 45 2
22 542 4 3 5 8 7 2 6 30 3 148 2 1979 54 4 49 8 0 14 0 22 4 1 14 1360 6 1 16 2 6 1 1 1 4 261 6 375
0 61 3 1504 6 109 6 792501 239"

/-- Whether a character is a combining mark. -/
def isMark (c : Char) : Bool := marks.contains c

/-- The writing direction of a character, as far as labels depend on it. -/
inductive Direction
  | leftToRight | rightToLeft | arabicLetter | europeanNumber | europeanSeparator
  | europeanTerminator | arabicNumber | commonSeparator | nonspacingMark | boundaryNeutral
  | otherNeutral
deriving DecidableEq, Repr

/-- The direction with a number in the table. -/
def Direction.ofNumber : Nat → Direction
  | 1 => .rightToLeft
  | 2 => .arabicLetter
  | 3 => .europeanNumber
  | 4 => .europeanSeparator
  | 5 => .europeanTerminator
  | 6 => .arabicNumber
  | 7 => .commonSeparator
  | 8 => .nonspacingMark
  | 9 => .boundaryNeutral
  | 10 => .otherNeutral
  | _ => .leftToRight

/-- Code points that share a direction. -/
structure DirectionRun where
  first : Nat
  last : Nat
  direction : Direction

/-- Reads gap, extra and direction of each run. -/
def DirectionRun.ofNumbers (next : Nat) : List Nat → List DirectionRun
  | gap :: extra :: d :: rest =>
    ⟨next + gap, next + gap + extra, .ofNumber d⟩ ::
      DirectionRun.ofNumbers (next + gap + extra + 1) rest
  | _ => []

/-- The characters that are not written from left to right. -/
def directionRuns : List DirectionRun := DirectionRun.ofNumbers 0 (tableNumbers "
0 8 9 5 13 9 5 1 10 0 2 5 0 4 10 0 0 4 0 0 7 0 0 4 0 1 7 0 9 3 0 0 7 0 5 10 26 5 10 26 3 10 0 5 9
1 25 9 0 0 7 0 0 10 0 3 5 0 3 10 1 1 10 0 0 9 0 1 10 0 1 5 0 1 3 0 0 10 1 2 10 0 0 3 1 4 10 23 0
10 31 0 10 449 1 10 7 13 10 2 13 10 5 8 10 1 16 10 0 111 8 4 1 10 8 0 10 5 1 10 1 0 10 110 0 10
140 6 8 256 0 10 2 1 10 0 0 5 1 44 8 0 0 1 0 0 8 0 0 1 0 1 8 0 0 1 0 1 8 0 0 1 0 0 8 8 26 1 4 5 1
11 5 6 0 1 10 0 0 2 0 1 5 0 0 2 0 0 7 0 0 2 0 1 10 0 10 8 0 47 2 0 20 8 0 9 6 0 0 5 0 1 6 0 2 2 0
0 8 0 100 2 0 6 8 0 0 6 0 0 10 0 5 8 0 1 2 0 1 8 0 0 10 0 3 8 0 1 2 0 9 3 0 19 2 1 1 2 0 0 8 0 29
2 0 26 8 2 88 2 0 10 8 0 0 2 14 42 1 0 8 8 0 1 1 0 3 10 0 0 1 2 0 8 0 23 1 0 3 8 0 0 1 0 8 8 0 0 1
0 2 8 0 0 1 0 4 8 2 14 1 1 24 1 0 2 8 2 0 1 1 10 2 5 30 2 1 1 6 6 7 8 0 41 2 0 23 8 0 0 6 0 31 8
55 0 8 1 0 8 4 7 8 4 0 8 3 6 8 10 1 8 29 0 8 58 0 8 4 3 8 8 0 8 20 1 8 14 1 5 7 0 5 2 0 8 2 1 8 57
0 8 4 1 8 4 1 8 2 2 8 3 0 8 30 1 8 3 0 8 11 1 8 57 0 8 4 4 8 1 1 8 4 0 8 20 1 8 13 0 5 8 5 8 1 0 8
58 0 8 2 0 8 1 3 8 8 0 8 7 1 8 11 1 8 30 0 8 61 0 8 12 0 8 37 5 10 0 0 5 0 0 10 5 0 8 3 0 8 55 0 8
1 2 8 5 2 8 1 3 8 7 1 8 11 1 8 20 6 10 2 0 8 58 0 8 15 1 8 20 1 8 28 1 8 57 1 8 4 3 8 8 0 8 20 1 8
29 0 8 72 0 8 7 2 8 1 0 8 90 0 8 2 6 8 4 0 5 7 7 8 98 0 8 2 8 8 11 5 8 74 1 8 27 0 8 1 0 8 1 0 8 0
3 10 51 13 8 1 4 8 1 1 8 5 10 8 1 35 8 9 0 8 102 3 8 1 5 8 1 1 8 2 1 8 25 1 8 4 2 8 16 3 8 13 0 8
2 1 8 6 0 8 15 0 8 703 2 8 48 9 10 102 0 10 666 1 10 117 2 8 29 1 8 30 1 8 30 1 8 64 1 8 1 6 8 8 0
8 2 10 8 7 0 5 1 0 8 18 9 10 6 10 10 0 2 8 0 0 9 0 0 8 117 1 8 34 0 8 118 2 8 4 1 8 9 0 8 6 2 8 4
0 10 3 1 10 152 33 10 23 1 8 2 0 8 58 0 8 1 6 8 1 0 8 1 0 8 2 7 8 6 9 8 2 0 8 48 30 8 49 3 8 48 0
8 1 4 8 1 0 8 5 0 8 40 8 8 12 1 8 32 3 8 2 1 8 1 2 8 56 0 8 1 1 8 3 0 8 1 2 8 58 7 8 2 1 8 152 2 8
1 12 8 1 6 8 4 0 8 6 0 8 3 1 8 198 63 8 445 0 10 1 2 10 11 2 10 13 2 10 13 2 10 13 1 10 12 2 9 1 0
1 0 23 10 7 0 7 0 4 5 0 14 10 0 0 7 0 25 10 1 4 9 5 5 9 0 0 3 3 5 3 0 1 4 0 2 10 1 9 3 0 1 4 0 2
10 17 32 5 15 32 8 15 1 10 1 3 10 1 1 10 10 0 10 1 2 10 5 5 10 1 0 10 1 0 10 1 0 10 4 0 5 11 1 10
4 4 10 5 3 10 2 15 10 41 2 10 4 129 10 0 0 4 0 0 5 0 289 10 69 25 10 1 144 10 25 10 10 21 39 10 0
19 3 78 449 10 1 338 10 256 627 10 2 31 10 1 104 10 229 5 10 4 2 8 7 6 10 127 0 8 96 31 8 0 93 10
34 25 10 1 88 10 12 213 10 26 11 10 5 3 10 3 24 10 9 3 8 2 0 10 5 1 10 5 2 10 89 1 8 0 1 10 3 0 10
90 0 10 196 35 10 57 1 10 49 15 10 28 2 10 50 14 10 12 3 10 167 3 10 99 1 10 31 0 10 6592 63 10
22160 54 10 326 2 10 95 3 8 0 0 10 0 9 8 0 1 10 30 1 8 80 1 8 14 33 10 102 0 10 121 0 8 3 0 8 4 0
8 25 1 8 1 3 10 0 0 8 11 1 5 58 3 10 76 1 8 26 17 8 13 0 8 38 7 8 25 10 8 46 2 8 48 0 8 2 3 8 2 1
8 39 0 8 67 5 8 2 1 8 2 1 8 12 0 8 8 0 8 47 0 8 51 0 8 1 2 8 2 1 8 5 1 8 1 0 8 42 1 8 8 0 8 115 1
10 121 0 8 2 0 8 4 0 8 20271 0 1 0 0 8 0 9 1 0 0 4 0 12 1 1 4 1 1 0 1 1 1 1 1 1 1 1 9 1 0 114 2 16
362 2 0 17 10 0 63 2 2 53 2 7 0 10 32 12 2 0 2 10 0 15 8 0 9 10 6 15 8 0 31 10 0 0 7 0 0 10 0 0 7
1 0 10 0 0 7 0 8 10 0 0 5 0 1 10 0 1 4 0 2 10 1 0 10 0 1 5 0 0 10 4 4 2 1 134 2 2 0 9 1 1 10 0 2 5
0 4 10 0 0 4 0 0 7 0 0 4 0 1 7 0 9 3 0 0 7 0 5 10 26 5 10 26 10 10 122 1 5 0 2 10 0 1 5 1 6 10 10
4 10 259 0 10 62 76 10 3 12 10 3 0 10 92 0 8 226 0 8 0 26 3 122 4 8 1157 5 1 2 0 1 1 43 1 1 1 1 3
0 1 2 22 1 1 71 1 8 8 1 48 18 1 1 1 1 5 32 1 3 0 10 0 25 1 5 0 1 64 55 1 4 19 1 2 46 1 0 2 8 1 1 8
5 3 8 0 3 1 1 2 1 1 28 1 2 2 8 4 0 8 0 8 1 7 8 1 7 63 1 32 36 1 0 1 8 4 11 1 9 53 1 3 6 10 0 21 1
2 26 1 5 25 1 7 3 1 12 6 1 80 72 1 55 50 1 13 50 1 7 5 1 0 35 2 0 3 8 8 9 6 294 30 6 1 41 1 1 1 8
0 0 1 2 1 1 78 39 1 8 21 2 0 10 8 0 8 2 22 17 1 0 3 8 0 3 1 38 27 1 20 22 1 10 0 8 54 14 8 11 19
10 10 0 8 2 1 8 10 2 8 49 3 8 2 1 8 7 0 8 61 2 8 36 4 8 1 7 8 62 0 8 12 1 8 52 8 8 10 3 8 2 0 8 95
2 8 2 0 8 1 1 8 6 0 8 160 0 8 3 7 8 21 1 8 57 1 8 3 0 8 37 6 8 3 4 8 195 7 8 2 2 8 1 0 8 23 0 8 84
5 8 1 0 8 4 1 8 1 1 8 238 3 8 6 1 8 1 1 8 27 1 8 85 7 8 2 0 8 1 1 8 31 12 10 62 0 8 1 0 8 2 5 8 1
0 8 101 2 8 2 3 8 1 4 8 259 8 8 1 1 8 256 1 8 1 0 8 4 0 8 144 3 8 2 1 8 4 0 8 32 5 8 2 1 8 40 5 8
2 3 8 8 0 8 9 5 8 2 2 8 46 12 8 1 1 8 406 6 8 1 5 8 84 21 8 2 6 8 1 1 8 1 1 8 122 5 8 3 0 8 1 1 8
1 6 8 1 0 8 72 1 8 3 0 8 1 0 8 347 1 8 224 7 10 0 3 5 0 16 10 19198 4 8 59 6 8 1048 0 8 63 3 8 79
0 10 1 0 8 19640 1 8 1 3 9 4700 45 8 2 22 8 544 2 8 9 7 9 0 7 8 2 6 8 30 3 8 59 1 10 21 65 10 0 2
8 0 0 10 186 86 10 900 0 10 57 0 10 57 0 10 57 0 10 57 0 10 10 49 3 512 54 8 4 49 8 8 0 8 14 0 8
22 4 8 1 14 8 1360 6 8 1 16 8 2 6 8 1 1 8 1 4 8 261 6 8 375 0 8 61 3 8 15 0 5 1280 196 1 2 8 1 0 6
8 41 67 1 0 6 8 0 0 1 4 9 1 4 1 1 785 67 2 76 60 2 194 3 2 1 26 2 1 1 2 1 0 2 2 0 2 1 9 2 1 3 2 1
0 2 1 0 2 6 0 2 4 0 2 1 0 2 1 0 2 1 2 2 1 1 2 1 0 2 2 0 2 1 0 2 1 0 2 1 0 2 1 0 2 1 1 2 1 0 2 2 3
2 1 6 2 1 3 2 1 3 2 1 0 2 1 9 2 1 16 2 5 2 2 1 4 2 1 16 2 52 1 10 270 43 10 4 99 10 12 14 10 2 14
10 1 14 10 1 36 10 10 10 3 0 4 10 31 0 10 58 5 10 61 0 10 178 5 10 154 983 10 5 15 10 3 12 10 3
115 10 12 88 10 7 11 10 4 0 10 15 11 10 4 55 10 8 9 10 6 39 10 8 29 10 2 1 10 78 339 10 12 13 10 2
4 10 3 4 10 3 6 10 9 28 10 3 10 10 5 5 10 10 9 10 6 7 10 8 6 10 9 146 10 1 54 10 37 9 3 787463 0 9
30 95 9 128 239 8")

/-- The writing direction of a character. -/
def direction (c : Char) : Direction :=
  match directionRuns.find? fun r => r.first ≤ c.toNat && c.toNat ≤ r.last with
  | some r => r.direction
  | none => .leftToRight

/-- Whether a letter connects to its neighbours. -/
inductive Joining
  | both | previous | transparent | none
deriving DecidableEq, Repr

/-- Letters that connect on both sides. -/
def joiningBoth : Ranges := Ranges.ofTable "
1574 0 1 0 1 4 4 7 5 7 1 1 46 2 2 2 2 1 1 1 28 0 1 0 2 0 3 0 1 0 1 0 1 0 7 0 2 0 2 0 10 0 3 0 6460
0"

/-- Letters that connect to the one before them only. -/
def joiningPrevious : Ranges := Ranges.ofTable "
1570 3 1 0 1 0 5 3 21 0 40 0 22 0 3 2 2 0 6 0 33 0 5 0 4 4 1 0 6 1"

/-- Characters that connecting letters look through. -/
def joiningTransparent : Ranges := Ranges.ofTable "
173 0 594 111 275 6 263 44 1 0 1 1 1 1 1 0 56 5 10 10 1 0 46 20 16 0 101 7 1 5 2 1 1 3 33 0 1 0 30
26 91 10 58 8 9 0 24 3 1 8 1 2 1 4 43 2 52 1 6 7 42 56 55 0 1 0 4 7 4 0 3 6 10 1 29 0 58 0 4 3 8 0
20 1 26 0 2 1 57 0 4 1 4 1 2 2 3 0 30 1 3 0 11 1 57 0 4 4 1 1 4 0 20 1 22 5 1 0 58 0 2 0 1 3 8 0 7
1 11 1 30 0 61 0 12 0 50 0 3 0 55 0 1 2 5 2 1 3 7 1 11 1 29 0 58 0 2 0 6 0 5 1 20 1 28 1 57 1 4 3
8 0 20 1 29 0 72 0 7 2 1 0 90 0 2 6 12 7 98 0 2 8 11 5 74 1 27 0 1 0 1 0 55 13 1 4 1 1 5 10 1 35 9
0 102 3 1 5 1 1 2 1 25 1 4 2 16 3 13 0 2 1 6 0 15 0 703 2 946 2 29 1 30 1 30 1 64 1 1 6 8 0 2 10 9
0 45 4 117 1 34 0 118 2 4 1 9 0 6 2 219 1 2 0 58 0 1 6 1 0 1 0 2 7 6 9 2 0 48 30 49 3 48 0 1 4 1 0
5 0 40 8 12 1 32 3 2 1 1 2 56 0 1 1 3 0 1 2 58 7 2 1 152 2 1 12 1 6 4 0 6 0 3 1 198 63 523 0 1 2
26 4 49 4 1 9 96 32 3070 2 141 0 96 31 554 3 107 1 30164 3 1 9 32 1 80 1 272 0 3 0 4 0 25 1 5 0
151 1 26 17 13 0 38 7 25 10 46 2 48 0 2 3 2 1 39 0 67 5 2 1 2 1 12 0 8 0 47 0 51 0 1 2 2 1 5 1 1 0
42 1 8 0 238 0 2 0 4 0 20272 0 737 15 16 15 207 0 249 2 513 0 226 0 149 4 1670 2 1 1 5 3 40 2 4 0
165 1 573 3 387 1 153 10 49 3 123 0 54 14 41 0 2 1 10 2 49 3 2 1 2 0 4 0 10 0 50 2 36 4 1 7 62 0
12 1 52 8 10 3 2 0 95 2 2 0 1 1 6 0 160 0 3 7 21 1 57 1 3 0 37 6 3 4 195 7 2 2 1 0 23 0 84 5 1 0 4
1 1 1 238 3 6 1 1 1 27 1 85 7 2 0 1 1 106 0 1 0 2 5 1 0 101 2 2 3 1 4 259 8 1 1 256 1 1 0 4 0 144
3 2 1 4 0 32 9 40 5 2 3 8 0 9 5 2 2 46 12 1 1 406 6 1 5 1 0 82 21 2 6 1 1 1 1 122 5 3 0 1 1 1 6 1
0 72 1 3 0 1 0 347 1 5435 8 14007 4 59 6 1048 0 63 3 81 0 19640 1 1 3 4700 45 2 22 544 2 9 15 2 6
30 3 148 2 1979 54 4 49 8 0 14 0 22 4 1 14 1360 6 1 16 2 6 1 1 1 4 261 6 375 0 61 3 1504 6 109 6
792246 0 30 95 128 239"

/-- How a character connects to its neighbours. -/
def joining (c : Char) : Joining :=
  if joiningBoth.contains c then .both
  else if joiningPrevious.contains c then .previous
  else if joiningTransparent.contains c then .transparent
  else .none

end HttpGateway.Unicode
