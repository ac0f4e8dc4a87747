/-
Deadlines.

* **BackendTimeouts** — how long the gateway waits for a backend.
* **withDeadline** — the outcome of work that takes a given time, or a timeout. Work that is done
  when its time is up counts as done.
-/
import HttpGateway.RequestError
import HttpGateway.Settings.Schema
import HttpGateway.Time

namespace HttpGateway

/-- How long to wait for a backend. -/
structure BackendTimeouts where
  connect : Instant
  write : Instant
  response : Instant
  idle : Instant
deriving DecidableEq, Repr, Inhabited

/-- The timeouts as they are set. -/
def BackendTimeouts.ofSettings (s : Settings.Timeouts) : BackendTimeouts where
  connect := .ofMillis s.connectMs
  write := .ofMillis s.writeMs
  response := .ofMillis s.responseMs
  idle := .ofSecs s.idleSecs

/-- The outcome of work under a deadline, and when it is known. -/
def withDeadline {α : Type} (limit took : Instant) (outcome : Except RequestError α)
    (timeout : RequestError) : Except RequestError α × Instant :=
  if took ≤ limit then (outcome, took) else (.error timeout, limit)

end HttpGateway
