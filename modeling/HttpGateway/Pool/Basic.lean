/-
Connections to one backend.

A pool lends connections and takes them back. As many may be lent at a time as there are permits;
whoever finds none waits in turn, and only so many may wait. An idle connection has no permit.

* **Pool.ask** — asks for a permit: there is one, or there will be, or too many wait already.
* **Pool.enter**, **Pool.expire** — the end of a wait: a permit came, or the time is up.
* **Pool.take** — the connection that was returned last of those that can still be used, or none,
  so that one has to be opened; **Pool.opened** is told of that one.
* **Pool.release** — takes a connection back; **Pool.leave** gives all up, at whatever stage.
* **Pool.evict** — discards what can no longer be used.
-/
import HttpGateway.Deadline
import HttpGateway.Keyed

namespace HttpGateway.Pool

open Settings

/-- How many connections a pool lends and how long it waits. -/
structure Limits where
  maxConnections : Nat
  maxPending : Nat
  acquireTimeout : Instant
  onTimeout : AcquireTimeoutAction
  connectTimeout : Instant
  idleTimeout : Instant
deriving DecidableEq, Repr, Inhabited

/-- The limits as they are set. There is always one permit. -/
def Limits.ofSettings (s : PoolLimits) (t : BackendTimeouts) : Limits where
  maxConnections := max s.maxConnectionsPerHost 1
  maxPending := s.maxPendingAcquires
  acquireTimeout := .ofMillis s.acquireTimeoutMs
  onTimeout := s.acquireTimeoutAction
  connectTimeout := t.connect
  idleTimeout := t.idle

/-- A connection of the pool, and whether the backend has not closed it. -/
structure Connection where
  id : Nat
  isOpen : Bool
deriving DecidableEq, Repr, Inhabited

/-- A connection that nobody has, and since when. -/
structure Idle where
  connection : Connection
  since : Instant
deriving DecidableEq, Repr, Inhabited

/-- How far someone has come who wants a connection. A permit that is `granted` counts as awaited
until note is taken of it. Someone `admitted` may have no permit, where that is allowed when the time
is up. -/
inductive Stage
  | waiting
  | granted
  | admitted (permit : Bool)
  | holding (permit : Bool) (connection : Connection)
deriving DecidableEq, Repr, Inhabited

namespace Stage

/-- Whether a permit is held at this stage. -/
def hasPermit : Stage → Bool
  | waiting => false
  | granted => true
  | admitted permit => permit
  | holding permit _ => permit

/-- Whether this stage counts as waiting. -/
def isPending : Stage → Bool
  | waiting | granted => true
  | _ => false

end Stage

end Pool

open Pool in
/-- The connections to one backend. `seats` holds all who want or have one, in the order in which
they came, and `idle` those that nobody has, the one returned last in front. -/
structure Pool where
  limits : Limits
  authority : String
  available : Nat
  pending : Nat
  seats : Keyed Nat Stage
  nextTicket : Nat
  idle : List Idle
  nextConnection : Nat
deriving Inhabited

namespace Pool

/-- A pool that has not lent anything. -/
def create (limits : Limits) (authority : String) : Pool where
  limits
  authority
  available := limits.maxConnections
  pending := 0
  seats := .empty
  nextTicket := 0
  idle := []
  nextConnection := 0

/-- How many permits are not available. -/
def inUse (p : Pool) : Nat := p.limits.maxConnections - p.available

/-- How many permits are held. -/
def held (p : Pool) : Nat := p.seats.entries.countP (·.2.hasPermit)

/-- How many wait. -/
def waiters (p : Pool) : Nat := p.seats.entries.countP (·.2.isPending)

/-- The stage of someone who wants or has a connection. -/
def stage? (p : Pool) (ticket : Nat) : Option Stage := p.seats.find ticket

/-- Changes a stage. -/
def setStage (p : Pool) (ticket : Nat) (s : Stage) : Pool :=
  { p with seats := p.seats.set ticket s }

/-- A seat for someone who has just come. -/
def seat (p : Pool) (s : Stage) : Pool :=
  { p with seats := p.seats.set p.nextTicket s, nextTicket := p.nextTicket + 1 }

/-- The first who waits for a permit. -/
def firstWaiting? (p : Pool) : Option Nat :=
  (p.seats.entries.find? (·.2 = .waiting)).map (·.1)

/-- Gives a permit to the first who waits, or makes it available. -/
def handOn (p : Pool) : Pool :=
  match p.firstWaiting? with
  | some ticket => p.setStage ticket .granted
  | none => { p with available := p.available + 1 }

/-- The answer to a request for a permit. -/
inductive Answer
  | admitted (ticket : Nat)
  | queued (ticket : Nat)
  | refused
deriving DecidableEq, Repr

/-- Asks for a permit. -/
def ask (p : Pool) : Answer × Pool :=
  if 0 < p.available then
    (.admitted p.nextTicket, { p with available := p.available - 1 }.seat (.admitted true))
  else if p.pending < p.limits.maxPending then
    (.queued p.nextTicket, { p with pending := p.pending + 1 }.seat .waiting)
  else (.refused, p)

/-- Note is taken of a permit that was granted. -/
def enter (p : Pool) (ticket : Nat) : Pool :=
  match p.stage? ticket with
  | some .granted => { p with pending := p.pending - 1 }.setStage ticket (.admitted true)
  | _ => p

/-- That there is no permit, and none to be waited for. -/
def exhausted (p : Pool) : RequestError := .poolExhausted p.authority

/-- A wait has lasted as long as it may. It ends in vain, or without a permit. -/
def expire (p : Pool) (ticket : Nat) : Option RequestError × Pool :=
  match p.stage? ticket with
  | some .waiting =>
    let p := { p with pending := p.pending - 1 }
    match p.limits.onTimeout with
    | .fail => (some p.exhausted, { p with seats := p.seats.erase ticket })
    | .newConnection => (none, p.setStage ticket (.admitted false))
  | _ => (none, p)

/-- Whether an idle connection can still be used. -/
def usable (limit now : Instant) (i : Idle) : Bool := i.connection.isOpen && now - i.since < limit

/-- The first that can be used, and those behind it. Those in front of it are discarded. -/
def pick (limit now : Instant) : List Idle → Option Connection × List Idle
  | [] => (none, [])
  | i :: rest => if usable limit now i then (some i.connection, rest) else pick limit now rest

/-- A connection for someone admitted; `none` if one has to be opened. -/
def take (p : Pool) (ticket : Nat) (now : Instant) : Option Connection × Pool :=
  match p.stage? ticket with
  | some (.admitted permit) =>
    match pick p.limits.idleTimeout now p.idle with
    | (some c, idle) => (some c, { p with idle }.setStage ticket (.holding permit c))
    | (none, idle) => (none, { p with idle })
  | _ => (none, p)

/-- A connection was opened for someone admitted. It gets the next number. -/
def opened (p : Pool) (ticket : Nat) : Connection × Pool :=
  let c : Connection := ⟨p.nextConnection, true⟩
  match p.stage? ticket with
  | some (.admitted permit) =>
    (c, { p with nextConnection := p.nextConnection + 1 }.setStage ticket (.holding permit c))
  | _ => (c, p)

/-- Gives up a place in the queue, a permit or a connection, which is closed then. -/
def leave (p : Pool) (ticket : Nat) : Pool :=
  match p.stage? ticket with
  | none => p
  | some s =>
    let p := { p with
      seats := p.seats.erase ticket
      pending := if s.isPending then p.pending - 1 else p.pending }
    if s.hasPermit then p.handOn else p

/-- Keeps an open connection for later, but no more of them than there are permits. -/
def keep (p : Pool) (c : Connection) (now : Instant) : Pool :=
  if c.isOpen then { p with idle := (⟨c, now⟩ :: p.idle).take p.limits.maxConnections } else p

/-- Takes a connection back. -/
def release (p : Pool) (ticket : Nat) (now : Instant) : Pool :=
  match p.stage? ticket with
  | some (.holding _ c) => (p.keep c now).leave ticket
  | _ => p

/-- Discards the idle connections that can no longer be used; tells how many. -/
def evict (p : Pool) (now : Instant) : Nat × Pool :=
  let idle := p.idle.filter (usable p.limits.idleTimeout now)
  (p.idle.length - idle.length, { p with idle })

/-- A connection after the backend has closed some of them. -/
def Connection.afterClosing (closed : Nat → Bool) (c : Connection) : Connection :=
  if closed c.id then { c with isOpen := false } else c

/-- A stage after the backend has closed some connections. -/
def Stage.afterClosing (closed : Nat → Bool) : Stage → Stage
  | .holding permit c => .holding permit (c.afterClosing closed)
  | s => s

/-- The backend has closed some connections. -/
def noteClosed (p : Pool) (closed : Nat → Bool) : Pool :=
  { p with
    seats := ⟨p.seats.entries.map fun (ticket, s) => (ticket, s.afterClosing closed)⟩
    idle := p.idle.map fun i => { i with connection := i.connection.afterClosing closed } }

end Pool

end HttpGateway
