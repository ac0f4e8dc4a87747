/-
Growing delays.

* **backoff** — the delay before a further attempt, in milliseconds: it doubles with every attempt
  and never exceeds the maximum. A little jitter keeps many clients from coming back together.
-/
namespace HttpGateway.Retry

/-- The largest number of 64 bits. -/
def largestWord : Nat := Nat.pow 2 64 - 1

/-- A power of two that stops at the largest number. -/
def cappedPower (exponent : Nat) : Nat := if exponent < 64 then Nat.pow 2 exponent else largestWord

/-- A product that stops at the largest number. -/
def cappedProduct (a b : Nat) : Nat := min (a * b) largestWord

/-- The delay after an attempt without any jitter. -/
def plainDelay (attempt base most : Nat) : Nat :=
  min (cappedProduct base (cappedPower (attempt - 1))) most

/-- The jitter for a delay: less than a tenth of it. -/
def jitterWithin (delay jitter : Nat) : Nat :=
  if delay / 10 = 0 then 0 else jitter % (delay / 10)

/-- The delay after an attempt. -/
def backoff (attempt base most jitter : Nat) : Nat :=
  if attempt = 0 then 0
  else
    let delay := plainDelay attempt base most
    min (delay + jitterWithin delay jitter) most

end HttpGateway.Retry
