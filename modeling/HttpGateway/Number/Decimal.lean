/-
Floating-point numbers in decimal digits.

* **readDecimal?** — a sign, digits with at most one point among or beside them, and an optional
  power of ten; or one of the names of infinity and of not-a-number, in any case. The result is the
  nearest number of the 64-bit format.
* **shortestDigits** — the fewest significant digits that read back as the same number, nearest to
  it among those.
* **positional** — those digits written without a power of ten.
-/
import HttpGateway.Number.Floating
import HttpGateway.Text.Numeral

namespace HttpGateway.Number

open Text

/-- Ten to an integer power. -/
def pow10 (e : Int) : Rat :=
  if 0 ≤ e then mkRat (Nat.pow 10 e.toNat) 1 else mkRat 1 (Nat.pow 10 (-e).toNat)

/-- The 64-bit number nearest to `coefficient · 10 ^ exponent`. A number beyond every format is
settled by its count of digits alone, so that no huge power is ever formed. -/
def ofDecimal (negative : Bool) (coefficient : Nat) (exponent : Int) : Floating :=
  let digits : Int := (decimal coefficient).length
  let unsignedValue : Floating :=
    if coefficient = 0 then .finite 0
    else if 400 < exponent + digits then .infinity false
    else if exponent + digits < -400 then .finite 0
    else FloatFormat.double.round (coefficient * pow10 exponent)
  if negative then unsignedValue.neg else unsignedValue

/-- Reads an optional sign. -/
def takeSign : List Char → Bool × List Char
  | '-' :: r => (true, r)
  | '+' :: r => (false, r)
  | r => (false, r)

/-- Reads the power of ten that may follow the digits; nothing may follow it. -/
def readExponent? : List Char → Option Int
  | [] => some 0
  | c :: r =>
    if c = 'e' ∨ c = 'E' then
      let (negative, digits) := takeSign r
      if digits.isEmpty then none
      else (ofDigits? 10 digits).map fun n => if negative then -(n : Int) else n
    else none

def isDecimalDigit (c : Char) : Bool := (digit? c).isSome

/-- Reads the text of a number of the 64-bit format. -/
def readDecimal? (s : List Char) : Option Floating :=
  let (negative, body) := takeSign s
  let name := body.map Char.toLower
  if name = "inf".toList ∨ name = "infinity".toList then some (.infinity negative)
  else if name = "nan".toList then some .nan
  else
    let whole := body.takeWhile isDecimalDigit
    let afterWhole := body.dropWhile isDecimalDigit
    let (fraction, rest) := match afterWhole with
      | '.' :: r => (r.takeWhile isDecimalDigit, r.dropWhile isDecimalDigit)
      | _ => ([], afterWhole)
    if whole.isEmpty && fraction.isEmpty then none
    else do
      let coefficient ← ofDigits? 10 (whole ++ fraction)
      let exponent ← readExponent? rest
      return ofDecimal negative coefficient (exponent - fraction.length)

/-- The exponent of the greatest power of ten that is not above a positive rational, found from
its power of two by at most three trials. -/
def floorLog10 (q : Rat) : Int :=
  -- log10 2 lies between 30102/100000 and 30103/100000
  let guess := floorLog2 q * 30103 / 100000
  if q < pow10 guess then (if q < pow10 (guess - 1) then guess - 2 else guess - 1)
  else if pow10 (guess + 1) ≤ q then guess + 1 else guess

/-- Whichever neighbour of `q` on the grid of step `10 ^ place` reads back as `q`, the nearer one if
both do: the count of steps. -/
def nearestOnGrid? (f : FloatFormat) (q : Rat) (place : Int) : Option Nat :=
  let step := pow10 place
  let low := (q / step).floor.toNat
  let readsBack (n : Nat) : Bool := f.round (n * step) = .finite q
  match readsBack low, readsBack (low + 1) with
  | true, true =>
    -- of two that read back the nearer one, and the even one halfway
    let below := q - low * step
    let above := (low + 1 : Nat) * step - q
    some (if below < above ∨ (below = above ∧ low % 2 = 0) then low else low + 1)
  | true, false => some low
  | false, true => some (low + 1)
  | false, false => none

/-- The first grid, from `place` down, on which a neighbour of `q` reads back. -/
def searchGrids (f : FloatFormat) (q : Rat) (place : Int) : Nat → Nat × Int
  | 0 => ((q / pow10 place).floor.toNat, place)
  | trials + 1 =>
    match nearestOnGrid? f q place with
    | some n => (n, place)
    | none => searchGrids f q (place - 1) trials

/-- The fewest digits of a positive number that read back, as a coefficient and the place of its
last digit. Seventeen digits are always enough. -/
def shortestDigits (f : FloatFormat) (q : Rat) : Nat × Int :=
  searchGrids f q (floorLog10 q) 17

/-- A positive number as digits without a power of ten. -/
def positionalDigits (coefficient : Nat) (place : Int) : List Char :=
  let ds := decimal coefficient
  if 0 ≤ place then ds ++ List.replicate place.toNat '0'
  else
    let places := (-place).toNat
    let padded := List.replicate (places + 1 - ds.length) '0' ++ ds
    let whole := padded.take (padded.length - places)
    let fraction := (Text.dropTrailingZeros (padded.drop (padded.length - places)))
    if fraction.isEmpty then whole else whole ++ '.' :: fraction

/-- The text of a 64-bit number without a power of ten, with no more digits than it takes to read
it back. A whole number has no point. -/
def positional : Floating → List Char
  | .nan => "NaN".toList
  | .infinity s => if s then "-inf".toList else "inf".toList
  | .negativeZero => "-0".toList
  | .finite q =>
    if q = 0 then ['0']
    else
      let (coefficient, place) := shortestDigits .double (magnitude q)
      (if q < 0 then ['-'] else []) ++ positionalDigits coefficient place

end HttpGateway.Number
