/-
Whole numbers in decimal digits.

* **unsigned?** — reads an optional plus sign and at least one digit, and nothing else; a number
  that is not below the bound is refused.
* **decimal** — the digits of a number, without leading zeros.
-/
namespace HttpGateway.Text

/-- The value of a decimal digit. -/
def digit? (c : Char) : Option Nat :=
  if '0' ≤ c ∧ c ≤ '9' then some (c.toNat - '0'.toNat) else none

/-- The value of a digit in a radix up to 36; letters of both cases count from ten. -/
def digitIn? (radix : Nat) (c : Char) : Option Nat :=
  let v :=
    if '0' ≤ c ∧ c ≤ '9' then some (c.toNat - '0'.toNat)
    else if 'a' ≤ c ∧ c ≤ 'z' then some (c.toNat - 'a'.toNat + 10)
    else if 'A' ≤ c ∧ c ≤ 'Z' then some (c.toNat - 'A'.toNat + 10)
    else none
  v.filter (· < radix)

/-- The number written by digits in `radix`; `none` if some character is no digit. No digits at
all are zero. -/
def ofDigits? (radix : Nat) (s : List Char) : Option Nat :=
  s.foldl (fun acc c => acc.bind fun n => (digitIn? radix c).map (n * radix + ·)) (some 0)

/-- A number below `bound` in decimal digits, with an optional plus sign in front. -/
def unsigned? (bound : Nat) (s : List Char) : Option Nat :=
  let digits := match s with
    | '+' :: r => r
    | _ => s
  if digits.isEmpty then none else (ofDigits? 10 digits).filter (· < bound)

/-- One hexadecimal digit in lower case. -/
def hexDigit (n : Nat) : Char :=
  if n < 10 then Char.ofNat ('0'.toNat + n) else Char.ofNat ('a'.toNat + (n - 10))

/-- The digits of `n` in `radix`, most significant first, in front of `rest`. -/
def digitsOnto (radix : Nat) (n : Nat) (rest : List Char) : List Char :=
  if _h : n < radix ∨ radix < 2 then hexDigit n :: rest
  else digitsOnto radix (n / radix) (hexDigit (n % radix) :: rest)
termination_by n
decreasing_by exact Nat.div_lt_self (by omega) (by omega)

/-- The decimal digits of `n`. -/
def decimal (n : Nat) : List Char :=
  digitsOnto 10 n []

/-- Digits after a point without the zeros at their end. -/
def dropTrailingZeros (s : List Char) : List Char :=
  s.foldr (fun c r => if c = '0' ∧ r.isEmpty then [] else c :: r) []

/-- `n` in lower-case hexadecimal digits, filled up with zeros to `width`. -/
def hexPadded (width n : Nat) : List Char :=
  let ds := digitsOnto 16 n []
  List.replicate (width - ds.length) '0' ++ ds

end HttpGateway.Text
