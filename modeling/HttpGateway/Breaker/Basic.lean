/-
Circuit breakers.

A breaker lets calls through while it is closed and counts their outcomes. When too many of the last
calls failed or were slow it opens and lets nothing through for a while; then a few trial calls
decide whether it closes or opens again. It can also be switched off, or be held open, by hand.

* **Breaker.acquire** — asks for a permit for one call.
* **Breaker.record** — reports the outcome of a call with the permit that it had.
* **Breaker.release** — gives a permit back that was not used.
* **Breaker.reset**, **Breaker.disable**, **Breaker.forceOpen** — what is done by hand.
* **Breaker.metrics** — what is counted at a given time.
-/
import HttpGateway.Breaker.Window
import HttpGateway.Settings.Schema
import HttpGateway.Time

namespace HttpGateway.Breaker

open Number

/-- The states of a breaker. -/
inductive State
  | closed
  | opened
  | halfOpen
  | disabled
  | forcedOpen
deriving DecidableEq, Repr, Inhabited

/-- The name of a state in logs and measurements. -/
def State.text : State → String
  | closed => "CLOSED"
  | opened => "OPEN"
  | halfOpen => "HALF_OPEN"
  | disabled => "DISABLED"
  | forcedOpen => "FORCED_OPEN"

/-- Why a call is not permitted. -/
inductive Rejection
  | opened
  | saturated
  | forcedOpen
deriving DecidableEq, Repr, Inhabited

/-- The wording of a rejection. -/
def Rejection.message : Rejection → String
  | opened => "circuit breaker is open"
  | saturated => "circuit breaker is half-open and all trial calls are in flight"
  | forcedOpen => "circuit breaker is forced open"

/-- When a breaker opens and closes. -/
structure Limits where
  failureRate : Floating
  slowRate : Floating
  slowCall : Instant
  openWait : Instant
  trials : Nat
  minimumCalls : Nat
  windowSecs : Nat
deriving DecidableEq, Repr, Inhabited

/-- The limits as they are set. A count of zero acts as one. -/
def Limits.ofSettings (s : Settings.Resilience) : Limits where
  failureRate := s.failureRateThreshold
  slowRate := s.slowCallRateThreshold
  slowCall := .ofMillis s.slowCallDurationMs
  openWait := .ofMillis s.waitDurationInOpenStateMs
  trials := max s.permittedCallsInHalfOpenState 1
  minimumCalls := max s.minimumNumberOfCalls 1
  windowSecs := max s.slidingWindowSecs 1

end Breaker

open Breaker in
/-- A circuit breaker. `issued` counts the trials under way or done since it became half-open, and
`trials` their outcomes. -/
structure Breaker where
  limits : Limits
  epoch : Instant
  state : State
  window : Window
  openedAt : Option Instant
  issued : Nat
  trials : Totals
deriving DecidableEq, Repr, Inhabited

namespace Breaker

/-- What is counted, for those who look from outside. -/
structure Metrics where
  state : State
  failureRate : Option Number.Floating
  slowRate : Option Number.Floating
  calls : Nat
  failures : Nat
  slow : Nat
deriving DecidableEq, Repr

/-- A closed breaker. Its seconds are counted from now on. -/
def create (limits : Limits) (now : Instant) : Breaker where
  limits
  epoch := now
  state := .closed
  window := .empty limits.windowSecs
  openedAt := none
  issued := 0
  trials := {}

/-- The second in which an instant lies. -/
def second (b : Breaker) (now : Instant) : Nat := Instant.secondsBetween b.epoch now

/-- Goes over to a state. Nothing happens if the breaker is in it. -/
def enter (b : Breaker) (state : State) (now : Instant) : Breaker :=
  if b.state = state then b
  else
    let b := { b with state, issued := 0, trials := {} }
    match state with
    | .opened | .forcedOpen => { b with openedAt := some now }
    | .closed => { b with openedAt := none, window := b.window.clear }
    | .halfOpen | .disabled => b

/-- How long the breaker has been open. -/
def waited (b : Breaker) (now : Instant) : Instant :=
  match b.openedAt with
  | some t => now - t
  | none => 0

/-- Asks for a permit. The permit is the state in which it was issued. The first call after the wait
makes an open breaker half-open and is its first trial. -/
def acquire (b : Breaker) (now : Instant) : Except Rejection State × Breaker :=
  match b.state with
  | .closed => (.ok .closed, b)
  | .disabled => (.ok .disabled, b)
  | .forcedOpen => (.error .forcedOpen, b)
  | .opened =>
    if b.waited now < b.limits.openWait then (.error .opened, b)
    else (.ok .halfOpen, { b.enter .halfOpen now with issued := 1 })
  | .halfOpen =>
    if b.limits.trials ≤ b.issued then (.error .saturated, b)
    else (.ok .halfOpen, { b with issued := b.issued + 1 })

/-- Whether one of the rates has reached its limit. -/
def exceeds (b : Breaker) (t : Totals) : Bool :=
  b.limits.failureRate.le t.failureRate || b.limits.slowRate.le t.slowRate

/-- Counts an outcome while the breaker is closed; opens it if that is too much. -/
def recordClosed (b : Breaker) (now : Instant) (failure slow : Bool) : Breaker :=
  let window := b.window.record (b.second now) failure slow
  let b := { b with window }
  let t := window.totals (b.second now)
  if b.limits.minimumCalls ≤ t.calls && b.exceeds t then b.enter .opened now else b

/-- Counts the outcome of a trial; the last one decides. -/
def recordTrial (b : Breaker) (now : Instant) (failure slow : Bool) : Breaker :=
  let trials := b.trials.count failure slow
  let b := { b with trials }
  if b.limits.trials ≤ trials.calls then
    b.enter (if b.exceeds trials then .opened else .closed) now
  else b

/-- Reports the outcome of a call that was permitted in the state `permit`. It counts while the
breaker is closed, and for a trial while it is half-open. -/
def record (b : Breaker) (permit : State) (now : Instant) (success : Bool) (took : Instant) :
    Breaker :=
  let slow := b.limits.slowCall ≤ took
  match b.state, permit with
  | .closed, _ => b.recordClosed now (!success) slow
  | .halfOpen, .halfOpen => b.recordTrial now (!success) slow
  | _, _ => b

/-- Gives a permit back that was not used. -/
def release (b : Breaker) (permit : State) : Breaker :=
  match b.state, permit with
  | .halfOpen, .halfOpen => { b with issued := b.issued - 1 }
  | _, _ => b

/-- Closes the breaker and forgets all counts. -/
def reset (b : Breaker) (now : Instant) : Breaker :=
  let b := b.enter .closed now
  { b with window := b.window.clear }

/-- Lets every call through and counts nothing. -/
def disable (b : Breaker) (now : Instant) : Breaker := b.enter .disabled now

/-- Lets no call through. -/
def forceOpen (b : Breaker) (now : Instant) : Breaker := b.enter .forcedOpen now

/-- What is counted. The rates are known from the minimum number of calls on. -/
def metrics (b : Breaker) (now : Instant) : Metrics :=
  let t := b.window.totals (b.second now)
  let known := b.limits.minimumCalls ≤ t.calls
  { state := b.state
    failureRate := if known then some t.failureRate else none
    slowRate := if known then some t.slowRate else none
    calls := t.calls
    failures := t.failures
    slow := t.slow }

end Breaker

end HttpGateway
