/-
Getting a connection from a pool.

* **Site** — a pool, the backend behind it, and the network between them.
* **Site.start** — asks for a connection at a given time. It is there, or the attempt has failed, or
  it takes time.
* **Site.resume** — goes on with an attempt that took time, once its permit has come or its time
  is up.
-/
import HttpGateway.Pool.Registry
import HttpGateway.Simulation.Network

namespace HttpGateway.Simulation

/-- A pool, the network, and the host and port to which the pool connects. `numbers` tells which of
the connections that a backend has accepted belongs to a connection of a pool. -/
structure Site where
  host : String
  port : Nat
  pool : Pool
  network : Network
  numbers : Keyed (String × Nat) Nat

/-- An attempt to get a connection that takes time: it waits for a permit, or for the backend. -/
inductive Connecting
  | queued (ticket : Nat) (deadline : Instant)
  | hanging (ticket : Nat) (deadline : Instant)
deriving DecidableEq, Repr, Inhabited

/-- A connection of a pool, under a ticket. -/
structure Lent where
  ticket : Nat
  connection : Nat
  reused : Bool
deriving DecidableEq, Repr, Inhabited

/-- How far an attempt has come. -/
inductive Progress
  | waiting (c : Connecting)
  | connected (l : Lent)
  | failed (e : RequestError)

namespace Connecting

/-- When an attempt goes on by itself at the latest. -/
def deadline : Connecting → Instant
  | queued _ t => t
  | hanging _ t => t

/-- Whether an attempt can go on at a given time. -/
def ready (c : Connecting) (p : Pool) (now : Instant) : Bool :=
  c.deadline ≤ now || match c with
    | queued ticket _ => p.stage? ticket == some .granted
    | hanging .. => false

end Connecting

namespace Site

/-- An attempt to connect has failed. -/
def giveUp (s : Site) (ticket : Nat) (reason : String) : Progress × Site :=
  (.failed (.connect s.pool.authority reason), { s with pool := s.pool.leave ticket })

/-- Opens a connection. -/
def connect (s : Site) (ticket : Nat) (now : Instant) : Progress × Site :=
  let (reach, network) := s.network.dial s.host s.port
  let s := { s with network }
  match reach with
  | .reached number =>
    let (c, pool) := s.pool.opened ticket
    (.connected ⟨ticket, c.id, false⟩,
      { s with pool, numbers := s.numbers.set (pool.authority, c.id) number })
  | .failed reason => s.giveUp ticket reason
  | .hanging => (.waiting (.hanging ticket (now + s.pool.limits.connectTimeout)), s)

/-- Finds a connection for someone who was admitted. -/
def supply (s : Site) (ticket : Nat) (now : Instant) : Progress × Site :=
  match s.pool.take ticket now with
  | (some c, pool) => (.connected ⟨ticket, c.id, true⟩, { s with pool })
  | (none, pool) => { s with pool }.connect ticket now

/-- Asks for a connection. -/
def start (s : Site) (now : Instant) : Progress × Site :=
  match s.pool.ask with
  | (.admitted ticket, pool) => { s with pool }.supply ticket now
  | (.queued ticket, pool) =>
    (.waiting (.queued ticket (now + pool.limits.acquireTimeout)), { s with pool })
  | (.refused, pool) => (.failed pool.exhausted, { s with pool })

/-- Goes on with an attempt that can go on. -/
def resume (s : Site) (now : Instant) : Connecting → Progress × Site
  | .queued ticket _ =>
    if s.pool.stage? ticket = some .granted then
      { s with pool := s.pool.enter ticket }.supply ticket now
    else
      match s.pool.expire ticket with
      | (some e, pool) => (.failed e, { s with pool })
      | (none, pool) => { s with pool }.supply ticket now
  | .hanging ticket _ => s.giveUp ticket ("timed out after " ++ s.pool.limits.connectTimeout.text)

end Site

end HttpGateway.Simulation
