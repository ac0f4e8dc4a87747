/-
Binary floating-point numbers as exact values.

A finite number is the rational it stands for, so that arithmetic is exact arithmetic followed by
one rounding, and a number of the narrow format is at the same time one of the wide format.

* **FloatFormat.round** — the number of a format nearest to a rational; a tie goes to the even
  significand, and what is too large becomes an infinity.
* **Floating** — the numbers of every binary format, with both infinities, the negative zero and
  one not-a-number.
* **Floating.singleBits** — the 32-bit interchange encoding.
-/
namespace HttpGateway.Number

/-- A binary floating-point format: the numbers `m · 2 ^ e` with `m < 2 ^ precision` and
`minExponent ≤ e ≤ maxExponent`, and their negatives. -/
structure FloatFormat where
  precision : Nat
  minExponent : Int
  maxExponent : Int
deriving Repr, DecidableEq

/-- The 32-bit format. -/
def FloatFormat.single : FloatFormat := ⟨24, -149, 104⟩

/-- The 64-bit format. -/
def FloatFormat.double : FloatFormat := ⟨53, -1074, 971⟩

/-- A floating-point number. The value of `finite` is the exact one; the zero of `finite` is the
positive zero. -/
inductive Floating
  | nan
  | infinity (negative : Bool)
  | negativeZero
  | finite (value : Rat)
deriving DecidableEq, Repr

/-- Two to an integer power. -/
def pow2 (e : Int) : Rat :=
  if 0 ≤ e then mkRat (Nat.pow 2 e.toNat) 1 else mkRat 1 (Nat.pow 2 (-e).toNat)

/-- The magnitude of a rational. -/
def magnitude (q : Rat) : Rat :=
  if q < 0 then -q else q

/-- The exponent of the greatest power of two that is not above a positive rational. -/
def floorLog2 (q : Rat) : Int :=
  let k := (q.num.natAbs.log2 : Int) - (q.den.log2 : Int)
  if q < pow2 k then k - 1 else k

/-- The nearest integer; halfway between two, the even one. -/
def roundHalfEven (q : Rat) : Int :=
  let low := q.floor
  let rest := q - low
  if rest < mkRat 1 2 then low
  else if mkRat 1 2 < rest then low + 1
  else if low % 2 = 0 then low else low + 1

namespace FloatFormat

/-- The exponent at which a positive rational is rounded: the significand then has at most
`precision` digits, and no more places than the format has. -/
def exponentFor (f : FloatFormat) (q : Rat) : Int :=
  max (floorLog2 q - (f.precision - 1 : Nat)) f.minExponent

/-- The nearest number of the format. A negative rational that rounds to nothing becomes the
negative zero. -/
def round (f : FloatFormat) (q : Rat) : Floating :=
  if q = 0 then .finite 0
  else
    let e := f.exponentFor (magnitude q)
    let v := (roundHalfEven (q / pow2 e) : Rat) * pow2 e
    if pow2 (f.precision + f.maxExponent) ≤ magnitude v then .infinity (q < 0)
    else if v = 0 then (if q < 0 then .negativeZero else .finite 0)
    else .finite v

end FloatFormat

namespace Floating

instance : Inhabited Floating := ⟨.finite 0⟩

/-- A whole number in a format. -/
def ofNat (f : FloatFormat) (n : Nat) : Floating := f.round n

/-- The number of a format nearest to a whole number. -/
def ofInt (f : FloatFormat) (n : Int) : Floating := f.round n

def one : Floating := .finite 1

def isNegative : Floating → Bool
  | nan => false
  | infinity s => s
  | negativeZero => true
  | finite q => q < 0

def isZero : Floating → Bool
  | negativeZero => true
  | finite q => q = 0
  | _ => false

/-- A zero with a sign. -/
def signedZero (negative : Bool) : Floating :=
  if negative then negativeZero else finite 0

/-- The exact value of a finite number. -/
def value : Floating → Rat
  | finite q => q
  | _ => 0

/-- The sum, rounded to the format. -/
def add (f : FloatFormat) : Floating → Floating → Floating
  | nan, _ | _, nan => nan
  | infinity s, infinity t => if s = t then infinity s else nan
  | infinity s, _ | _, infinity s => infinity s
  | negativeZero, negativeZero => negativeZero
  | negativeZero, b => b
  | a, negativeZero => a
  | finite p, finite q => f.round (p + q)

/-- The number with the other sign. -/
def neg : Floating → Floating
  | nan => nan
  | infinity s => infinity !s
  | negativeZero => finite 0
  | finite q => if q = 0 then negativeZero else finite (-q)

/-- The difference, rounded to the format. -/
def sub (f : FloatFormat) (a b : Floating) : Floating := add f a b.neg

/-- The product, rounded to the format. -/
def mul (f : FloatFormat) (a b : Floating) : Floating :=
  let negative := a.isNegative != b.isNegative
  match a, b with
  | nan, _ | _, nan => nan
  | infinity _, b => if b.isZero then nan else infinity negative
  | a, infinity _ => if a.isZero then nan else infinity negative
  | a, b => if a.isZero || b.isZero then signedZero negative else f.round (a.value * b.value)

/-- The quotient, rounded to the format. -/
def div (f : FloatFormat) (a b : Floating) : Floating :=
  let negative := a.isNegative != b.isNegative
  match a, b with
  | nan, _ | _, nan => nan
  | infinity _, infinity _ => nan
  | infinity _, _ => infinity negative
  | _, infinity _ => signedZero negative
  | a, b =>
    if b.isZero then (if a.isZero then nan else infinity negative)
    else if a.isZero then signedZero negative
    else f.round (a.value / b.value)

/-- `a ≤ b` as numbers: nothing is comparable with not-a-number, and both zeros are equal. -/
def le : Floating → Floating → Bool
  | nan, _ | _, nan => false
  | infinity s, infinity t => s || !t
  | infinity s, _ => s
  | _, infinity t => !t
  | a, b => a.value ≤ b.value

/-- `a < b` as numbers. -/
def lt (a b : Floating) : Bool := le a b && !le b a

/-- The smaller number; not-a-number gives way to the other one. -/
def minNum (a b : Floating) : Floating :=
  if a = nan then b else if b = nan then a else if le b a then b else a

/-- The larger number; not-a-number gives way to the other one. -/
def maxNum (a b : Floating) : Floating :=
  if a = nan then b else if b = nan then a else if le b a then a else b

/-- The number in a format that may be narrower than the one it has. -/
def convert (f : FloatFormat) : Floating → Floating
  | finite q => f.round q
  | a => a

/-- The 32-bit encoding: sign, eight bits of exponent, 23 bits of significand. -/
def singleBits : Floating → Nat
  | nan => 0x7fc00000
  | infinity s => (if s then 0x80000000 else 0) + 0x7f800000
  | negativeZero => 0x80000000
  | finite q =>
    if q = 0 then 0
    else
      let sign := if q < 0 then 0x80000000 else 0
      let e := FloatFormat.single.exponentFor (magnitude q)
      let m := (magnitude q / pow2 e).floor.toNat
      if m < Nat.pow 2 23 then sign + m
      else sign + (e + 150).toNat * Nat.pow 2 23 + (m - Nat.pow 2 23)

end Floating

end HttpGateway.Number
