/-
A network with scripted backends.

* **Network.dial** — an attempt to connect: it goes as the script of the backend says, and each
  attempt uses up an entry. Where no backend is, connections are refused. A network that is down
  lets nothing through.
* **Network.send** — a request on a connection: what will happen on the connection then.
-/
import HttpGateway.Forward.Outbound
import HttpGateway.Net.Address
import HttpGateway.Simulation.Reply

namespace HttpGateway.Simulation

open Forward Http Net

/-- How a backend takes an attempt to connect. -/
inductive Reception
  | accept
  | refuse
  | hang
deriving DecidableEq, Repr, Inhabited

/-- A request that a backend has received, and on which of its connections. -/
structure Received where
  connection : Nat
  method : String
  target : String
  fields : Fields
  body : ByteArray

/-- A backend: what it will do, and what it has seen. On the connections listed as `mute` it says
nothing more. -/
structure Backend where
  receptions : List Reception := []
  replies : List Reply := []
  accepted : Nat := 0
  received : List Received := []
  mute : List Nat := []
deriving Inhabited

/-- The backends of one host, by port, and whether connections get through to them. -/
structure Network where
  isUp : Bool
  backends : Keyed Nat Backend

/-- What comes of an attempt to connect: the number of the connection, a failure, or nothing. -/
inductive Reach
  | reached (number : Nat)
  | failed (reason : String)
  | hanging
deriving DecidableEq, Repr

def refused : String := "Connection refused (os error 111)"

def unreachable : String := "Network is unreachable (os error 101)"

/-- The host on which all backends are. -/
def backendHost : String := "127.0.0.1"

namespace Network

/-- Tries to connect to a backend. -/
def dialBackend (isUp : Bool) (b : Backend) : Reach × Backend :=
  let next := b.receptions.head?.getD .accept
  let b := { b with receptions := b.receptions.tail }
  match next with
  | .refuse => (.failed refused, b)
  | .hang => (if isUp then .hanging else .failed unreachable, b)
  | .accept =>
    if isUp then (.reached (b.accepted + 1), { b with accepted := b.accepted + 1 })
    else (.failed unreachable, b)

/-- Tries to connect. -/
def dial (n : Network) (host : String) (port : Nat) : Reach × Network :=
  match if host = backendHost then n.backends.find port else none with
  | none => (.failed refused, n)
  | some b =>
    let (reach, b) := dialBackend n.isUp b
    (reach, { n with backends := n.backends.set port b })

/-- The next reply of a backend. The last one is given again and again. -/
def nextReply (b : Backend) : Reply × Backend :=
  match b.replies with
  | [] => ({}, b)
  | [r] => (r, b)
  | r :: rest => (r, { b with replies := rest })

/-- What happens after a request, and whether the connection is open in the end. -/
structure Course where
  schedule : Schedule
  leavesOpen : Bool

/-- A request reaches a backend. -/
def receive (b : Backend) (request : Received) : Course × Backend :=
  if b.mute.contains request.connection then (⟨[(0, .bodyTaken)], true⟩, b)
  else
    let (reply, b) := nextReply b
    let mute := if reply.goesSilent then request.connection :: b.mute else b.mute
    (⟨reply.schedule request.method, reply.leavesOpen request.method⟩,
      { b with received := b.received ++ [request], mute })

/-- Hands a request to a connection. -/
def send (n : Network) (port : Nat) (request : Received) : Course × Network :=
  match n.backends.find port with
  | none => (⟨[], false⟩, n)
  | some b =>
    let (course, b) := receive b request
    (course, { n with backends := n.backends.set port b })

end Network

/-- A request to an instance as the backend sees it. A body that is not empty has its length in
front of it. -/
def received (number : Nat) (r : Outbound) (target : Target) : Received where
  connection := number
  method := r.method
  target := String.ofList target.text
  fields :=
    if r.body.isEmpty then r.fields
    else r.fields.set "content-length" (FieldValue.ofAscii (toString r.body.size))
  body := r.body

end HttpGateway.Simulation
