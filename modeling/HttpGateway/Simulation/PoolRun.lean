/-
A pool at work, with those who use it known by name.

* **PoolRun.spawn**, **PoolRun.join** — asks for a connection, and waits for it.
* **PoolRun.acquire** — both at once.
* **PoolRun.release**, **PoolRun.drop** — gives a connection back, or closes it.
* **PoolRun.closeBackend** — the backend closes all its connections.
-/
import HttpGateway.Simulation.Clock
import HttpGateway.Simulation.Connecting

namespace HttpGateway.Simulation

/-- A pool at work: attempts under way, what came of others, and the tickets of those who hold a
connection, by name. -/
structure PoolRun where
  now : Instant
  site : Site
  underWay : Keyed String Connecting
  results : Keyed String (Except RequestError Lent × Instant)
  holders : Keyed String Nat

namespace PoolRun

/-- A pool for a port, nothing lent. -/
def create (limits : Pool.Limits) (network : Network) (port : Nat) : PoolRun where
  now := 0
  site :=
    { host := backendHost
      port
      pool := .create limits (backendHost ++ ":" ++ toString port)
      network
      numbers := .empty }
  underWay := .empty
  results := .empty
  holders := .empty

/-- Notes how far an attempt has come. -/
def note (r : PoolRun) (name : String) : Progress × Site → PoolRun
  | (.waiting c, site) => { r with site, underWay := r.underWay.set name c }
  | (.connected l, site) =>
    { r with site, underWay := r.underWay.erase name, results := r.results.set name (.ok l, r.now) }
  | (.failed e, site) =>
    { r with site, underWay := r.underWay.erase name, results := r.results.set name (.error e, r.now) }

/-- The first attempt that can go on does. -/
def proceed (r : PoolRun) : Option PoolRun :=
  (r.underWay.entries.find? fun (_, c) => c.ready r.site.pool r.now).map fun (name, c) =>
    r.note name (r.site.resume r.now c)

/-- What moves while a pool is at work. -/
def motion : Motion PoolRun where
  now := now
  setNow t r := { r with now := t }
  proceed := proceed
  alarm r := earliest (r.underWay.entries.map (·.2.deadline))

/-- Starts an attempt to get a connection. -/
def spawn (r : PoolRun) (name : String) : PoolRun := r.note name (r.site.start r.now)

/-- Closes a connection, or gives it back; tells whether it was held. -/
def part (r : PoolRun) (name : String) (f : Pool → Nat → Pool) : Bool × PoolRun :=
  match r.holders.find name with
  | none => (false, r)
  | some ticket =>
    (true, { r with
      site := { r.site with pool := f r.site.pool ticket }
      holders := r.holders.erase name })

/-- Gives a connection back. -/
def release (r : PoolRun) (name : String) : Bool × PoolRun :=
  r.part name fun p ticket => p.release ticket r.now

/-- Closes a connection. -/
def drop (r : PoolRun) (name : String) : Bool × PoolRun := r.part name Pool.leave

/-- The connection of an attempt that is over goes to the name, in place of an earlier one. -/
def collect (r : PoolRun) (name : String) (l : Lent) : PoolRun :=
  let r := (r.drop name).2
  { r with holders := r.holders.set name l.ticket }

/-- Waits for an attempt; tells what came of it, and when. -/
def join (r : PoolRun) (name : String) :
    Option (Except RequestError Lent × Instant) × PoolRun :=
  let r := motion.run (·.results.contains name) r
  match r.results.find name with
  | none => (none, r)
  | some (outcome, finished) =>
    let r := { r with results := r.results.erase name }
    match outcome with
    | .ok l => (some (.ok l, finished), r.collect name l)
    | .error e => (some (.error e, finished), r)

/-- Gets a connection. -/
def acquire (r : PoolRun) (name : String) :
    Option (Except RequestError Lent × Instant) × PoolRun :=
  (r.spawn name).join name

/-- Discards the idle connections that can no longer be used; tells how many. -/
def evict (r : PoolRun) : Nat × PoolRun :=
  let (n, pool) := r.site.pool.evict r.now
  (n, { r with site := { r.site with pool } })

/-- A backend closes all its connections. -/
def closeBackend (r : PoolRun) (port : Nat) : PoolRun :=
  if port = r.site.port then
    { r with site := { r.site with pool := r.site.pool.noteClosed fun _ => true } }
  else r

end PoolRun

end HttpGateway.Simulation
