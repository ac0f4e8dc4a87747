/-
Trying again.

* **Policy.pause?** — whether there is another attempt after one, and after what delay. A success
  and a final error end it, and so does the last of the attempts.
* **Policy.run** — a whole run: each attempt takes its time and has its outcome.
-/
import HttpGateway.RequestError
import HttpGateway.Retry.Backoff
import HttpGateway.Settings.Schema
import HttpGateway.Time

namespace HttpGateway.Retry

/-- How often to try again, and after what delays. `jitter` gives the jitter after each attempt. -/
structure Policy where
  maxRetries : Nat
  baseMs : Nat
  mostMs : Nat
  jitter : Nat → Nat

/-- The policy that is set. A count that is not positive means never. -/
def Policy.ofSettings (s : Settings.Retries) (jitter : Nat → Nat) : Policy where
  maxRetries := s.maxRetries.toNat
  baseMs := s.baseDelayMs
  mostMs := s.maxDelayMs
  jitter

namespace Policy

/-- The delay after an attempt. -/
def delay (p : Policy) (attempt : Nat) : Instant :=
  .ofMillis (backoff attempt p.baseMs p.mostMs (p.jitter attempt))

/-- The delay before another attempt, if there is one. -/
def pause? {α : Type} (p : Policy) (attempt : Nat) (outcome : Except RequestError α) :
    Option Instant :=
  match outcome with
  | .ok _ => none
  | .error e => if e.retryable && attempt ≤ p.maxRetries then some (p.delay attempt) else none

/-- A finished run: when each attempt began, what came of the last one, and when it ended. -/
structure Run (α : Type) where
  attempts : List (Nat × Instant)
  outcome : Except RequestError α
  finished : Instant

/-- Attempts from the given one on. `left` bounds how many more there can be. -/
def runFrom {α : Type} (p : Policy) (work : Nat → Instant × Except RequestError α) :
    (left attempt : Nat) → Instant → Run α
  | left, attempt, now =>
    let (took, outcome) := work attempt
    let finished := now + took
    match left, p.pause? attempt outcome with
    | left + 1, some pause =>
      let r := runFrom p work left (attempt + 1) (finished + pause)
      { r with attempts := (attempt, now) :: r.attempts }
    | _, _ => ⟨[(attempt, now)], outcome, finished⟩

/-- A whole run. -/
def run {α : Type} (p : Policy) (work : Nat → Instant × Except RequestError α) (now : Instant) :
    Run α :=
  p.runFrom work p.maxRetries 1 now

end Policy

end HttpGateway.Retry
