/-
Time.

* **Instant** — a point in time, in microseconds from the start.
* **ofMillis**, **ofSecs** — spans of time in microseconds.
* **secondsBetween** — whole seconds from one instant to another.
* **text** — a span of time in the largest unit of which it has one, with what is left as a
  fraction.
-/
import HttpGateway.Text.Numeral

namespace HttpGateway

/-- A point in time or a span of time, in microseconds. -/
abbrev Instant := Nat

namespace Instant

def ofMillis (ms : Nat) : Instant := ms * 1000

def ofSecs (s : Nat) : Instant := s * 1000000

/-- Whole milliseconds. -/
def millis (t : Instant) : Nat := t / 1000

/-- Whole seconds from `start` to `now`; none if `now` is earlier. -/
def secondsBetween (start now : Instant) : Nat := (now - start) / 1000000

/-- `n` as a multiple of `unit`, a power of ten with `places` zeros. -/
def inUnit (n unit places : Nat) : List Char :=
  let digits := Text.decimal (n % unit)
  let fraction := Text.dropTrailingZeros (List.replicate (places - digits.length) '0' ++ digits)
  Text.decimal (n / unit) ++ (if fraction.isEmpty then [] else '.' :: fraction)

/-- A span of time as it is written in messages. -/
def text (span : Instant) : String :=
  if span = 0 then "0ns"
  else if 1000000 ≤ span then String.ofList (inUnit span 1000000 6) ++ "s"
  else if 1000 ≤ span then String.ofList (inUnit span 1000 3) ++ "ms"
  else String.ofList (Text.decimal span) ++ "µs"

end Instant

end HttpGateway
