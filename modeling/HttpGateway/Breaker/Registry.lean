/-
Breakers by service.

* **Registry.acquire** — asks the breaker of a service for a permit; the first request for a service
  makes its breaker.
* **Registry.record**, **Registry.release** — report to the breaker that issued a permit. Each
  breaker has a serial number, so that the permits of one that was removed do not reach the one made
  after it.
-/
import HttpGateway.Breaker.Basic
import HttpGateway.Keyed

namespace HttpGateway.Breaker

/-- A breaker and its serial number. -/
structure Registered where
  serial : Nat
  breaker : Breaker
deriving Inhabited

/-- The breakers of all services. -/
structure Registry where
  limits : Limits
  breakers : Keyed String Registered := .empty
  nextSerial : Nat := 0

/-- Permission for one call to a service: which breaker issued it, and in which state. -/
structure Permit where
  service : String
  serial : Nat
  issuedIn : State
deriving DecidableEq, Repr, Inhabited

namespace Registry

/-- No breakers yet. -/
def empty (limits : Limits) : Registry := { limits }

/-- The breaker of a service. -/
def get (r : Registry) (service : String) : Option Breaker :=
  (r.breakers.find service).map (·.breaker)

/-- Makes the breaker of a service, if it has none. -/
def ensure (r : Registry) (service : String) (now : Instant) : Registered × Registry :=
  match r.breakers.find service with
  | some b => (b, r)
  | none =>
    let b : Registered := ⟨r.nextSerial, .create r.limits now⟩
    (b, { r with breakers := r.breakers.set service b, nextSerial := r.nextSerial + 1 })

/-- Puts back the breaker of a service. -/
def put (r : Registry) (service : String) (b : Registered) : Registry :=
  { r with breakers := r.breakers.set service b }

/-- Asks for a permit for one call. -/
def acquire (r : Registry) (service : String) (now : Instant) :
    Except Rejection Permit × Registry :=
  let (b, r) := r.ensure service now
  let (answer, breaker) := b.breaker.acquire now
  let r := r.put service { b with breaker }
  match answer with
  | .ok state => (.ok ⟨service, b.serial, state⟩, r)
  | .error e => (.error e, r)

/-- Changes the breaker that issued a permit, if it is still there. -/
def onIssuer (r : Registry) (p : Permit) (f : Breaker → Breaker) : Registry :=
  match r.breakers.find p.service with
  | some b => if b.serial = p.serial then r.put p.service { b with breaker := f b.breaker } else r
  | none => r

/-- Reports the outcome of a call. -/
def record (r : Registry) (p : Permit) (now : Instant) (success : Bool) (took : Instant) :
    Registry :=
  r.onIssuer p (·.record p.issuedIn now success took)

/-- Gives a permit back that was not used. -/
def release (r : Registry) (p : Permit) : Registry := r.onIssuer p (·.release p.issuedIn)

/-- Changes the breaker of a service; tells whether it has one. -/
def onService (r : Registry) (service : String) (f : Breaker → Breaker) : Bool × Registry :=
  match r.breakers.find service with
  | some b => (true, r.put service { b with breaker := f b.breaker })
  | none => (false, r)

def reset (r : Registry) (service : String) (now : Instant) : Bool × Registry :=
  r.onService service (·.reset now)

def disable (r : Registry) (service : String) (now : Instant) : Bool × Registry :=
  r.onService service (·.disable now)

def forceOpen (r : Registry) (service : String) (now : Instant) : Bool × Registry :=
  r.onService service (·.forceOpen now)

/-- Forgets the breaker of a service; tells whether it had one. -/
def remove (r : Registry) (service : String) : Bool × Registry :=
  (r.breakers.contains service, { r with breakers := r.breakers.erase service })

/-- What all breakers count, sorted by service. -/
def snapshot (r : Registry) (now : Instant) : List (String × Metrics) :=
  (r.breakers.entries.map fun (service, b) => (service, b.breaker.metrics now)).mergeSort
    fun a b => a.1 ≤ b.1

end Registry

end HttpGateway.Breaker
