/-
Rounds of probes.

* **Checkup** — the probes of a round that are still to be made, and the one under way.
* **Line.probe** — makes a probe: when its outcome is known, and what it is. Probes have connections
  of their own, which they use again as long as those are open and no body is left to read.
-/
import HttpGateway.Health.Probe
import HttpGateway.Simulation.Clock
import HttpGateway.Simulation.Network

namespace HttpGateway.Simulation

open Forward Health Http Text

/-- A probe under way: when its outcome is known and what it is, and the port that it goes to. -/
structure Pending where
  probe : Probe
  due : Instant
  healthy : Bool
  port : Option Nat

/-- A round of probes: those still to be made, and the one under way. -/
structure Checkup where
  left : List Probe
  current : Option Pending

/-- The network, and the connections of probes by port. -/
structure Line where
  network : Network
  kept : Keyed Nat Nat

/-- When the head of a response comes and with what status, and whether nothing follows it. -/
def headIn : Schedule → Option (Instant × Status × Bool)
  | [] => none
  | (due, .head status _) :: rest => some (due, status, rest == [(due, .finished)])
  | (_, .broken _) :: _ => none
  | _ :: rest => headIn rest

/-- When a connection breaks before there is a head. -/
def breakIn : Schedule → Option Instant
  | [] => none
  | (due, .broken _) :: _ => some due
  | (_, .head ..) :: _ => none
  | _ :: rest => breakIn rest

namespace Line

/-- Sends a probe on a connection. -/
def sendProbe (l : Line) (p : Probe) (port number : Nat) (target : Target) (now limit : Instant) :
    Pending × Line :=
  let request : Received :=
    { connection := number
      method := "GET"
      target := String.ofList target.pathAndQuery
      fields := probeFields target
      body := emptyBody }
  let (course, network) := l.network.send port request
  let dropped : Line := { network, kept := l.kept.erase port }
  match headIn course.schedule with
  | some (due, status, complete) =>
    if due ≤ limit then
      (⟨p, now + due, status.isSuccess, some port⟩,
        if complete && course.leavesOpen then { network, kept := l.kept.set port number }
        else dropped)
    else (⟨p, now + limit, false, some port⟩, dropped)
  | none =>
    (⟨p, now + min limit ((breakIn course.schedule).getD limit), false, some port⟩, dropped)

/-- Makes a probe. What has another scheme than probes have fails at once. -/
def probe (l : Line) (p : Probe) (path : String) (now limit : Instant) : Pending × Line :=
  match (probeTarget? p.probed path).filter (·.scheme = some probeScheme) with
  | none => (⟨p, now, false, none⟩, l)
  | some target =>
    let host := String.ofList target.host
    let port := probePort target
    match if host = backendHost then l.kept.find port else none with
    | some number => l.sendProbe p port number target now limit
    | none =>
      let (reach, network) := l.network.dial host port
      let l := { l with network }
      match reach with
      | .reached number => l.sendProbe p port number target now limit
      | .failed _ => (⟨p, now, false, some port⟩, l)
      | .hanging => (⟨p, now + limit, false, some port⟩, l)

end Line

namespace Checkup

/-- A round that has just begun. -/
def begin (probes : List Probe) : Checkup := ⟨probes, none⟩

/-- Whether nothing is left to be done. -/
def isOver (c : Checkup) : Bool := c.left.isEmpty && c.current.isNone

/-- When the round goes on. -/
def due (c : Checkup) (now : Instant) : Instant := c.current.elim now (·.due)

/-- The backend at a port has closed its connections: the probe that goes there fails. -/
def cutOff (c : Checkup) (port : Nat) (now : Instant) : Checkup :=
  { c with current := c.current.map fun p =>
      if p.port = some port then { p with due := min p.due now, healthy := false } else p }

end Checkup

end HttpGateway.Simulation
