/-
Admission of requests.

Only so many requests may be in hand at a time; those that come on top are turned away. A request is
in hand until its body proves unfit or the gateway is done with it. A client who leaves while the
body is read takes the request along; later on the gateway finishes it all the same.

* **Desk.arrive**, **Desk.start**, **Desk.turnBack** — a request comes in, and goes on or does not.
* **Desk.finish** — the gateway is done with a request, or has broken down over it.
* **Desk.disconnect** — the client has left.
-/
import HttpGateway.Keyed
import HttpGateway.RequestError

namespace HttpGateway.Request

open Http

/-- A request in hand: whether its body is still being read, and whether its client is still
there. -/
structure Visit where
  reading : Bool
  clientGone : Bool
deriving DecidableEq, Repr, Inhabited

/-- The requests in hand, by number, and how many there may be. -/
structure Desk where
  limit : Nat
  visits : Keyed Nat Visit
  nextVisit : Nat
deriving Inhabited

/-- That the gateway broke down over a request. -/
def brokenDown : RequestError := .unexpected "request pipeline panicked"

namespace Desk

/-- No requests yet. -/
def opened (limit : Nat) : Desk := ⟨limit, .empty, 0⟩

/-- How many requests are in hand. -/
def inHand (d : Desk) : Nat := d.visits.entries.length

/-- A request comes in; `none` if there are too many. -/
def arrive (d : Desk) : Option Nat × Desk :=
  if d.inHand < d.limit then
    (some d.nextVisit,
      { d with visits := d.visits.set d.nextVisit ⟨true, false⟩, nextVisit := d.nextVisit + 1 })
  else (none, d)

/-- The body of a request was read. -/
def start (d : Desk) (visit : Nat) : Desk :=
  { d with visits := d.visits.update visit fun v => { v with reading := false } }

/-- Closes a visit; the response is for a client who is still there. -/
def close (d : Desk) (visit : Nat) (r : Response) : Option Response × Desk :=
  match d.visits.find visit with
  | none => (none, d)
  | some v => (if v.clientGone then none else some r, { d with visits := d.visits.erase visit })

/-- The body of a request is unfit. -/
def turnBack (d : Desk) (visit : Nat) (e : RequestError) : Option Response × Desk :=
  d.close visit e.response

/-- The gateway is done with a request; `none` if it broke down. -/
def finish (d : Desk) (visit : Nat) (r : Option Response) : Option Response × Desk :=
  d.close visit (r.getD brokenDown.response)

/-- The client of a request has left. -/
def disconnect (d : Desk) (visit : Nat) : Desk :=
  match d.visits.find visit with
  | none => d
  | some v =>
    if v.reading then { d with visits := d.visits.erase visit }
    else { d with visits := d.visits.set visit { v with clientGone := true } }

end Desk

end HttpGateway.Request
