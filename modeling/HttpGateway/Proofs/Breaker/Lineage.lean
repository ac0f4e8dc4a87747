/-
The breakers of one service, and those of all services together.

* **Deed**, **Reply** — what is done with the breakers of a service, and what comes back. Breakers
  are named by their place among those of the service, so that no serial number is seen.
* **Lineage** — the breakers of a single service, one after another, as if there were no other
  service.
* **Usage** — a registry in use, with the breakers that were removed from it. They live on with
  those who have got hold of them, and with their permits.
* **Usage.lineage** — what there is of a service in a registry, without the serial numbers.

A deed may name any place and any state in which a permit was issued. Who has got hold of what makes
no difference to what is said of these definitions.
-/
import HttpGateway.Proofs.Breaker.Registry

namespace HttpGateway.Breaker

/-- What is done with the breakers of a service: the current one is asked for, asked for a call, set
by hand, removed or read; and one that somebody has got hold of is asked for a call, told what became
of one, or read. -/
inductive Deed
  | get
  | call
  | reset
  | disable
  | forceOpen
  | remove
  | read
  | acquire (place : Nat)
  | record (place : Nat) (issuedIn : State) (success : Bool) (took : Instant)
  | drop (place : Nat) (issuedIn : State)
  | look (place : Nat)
deriving DecidableEq, Repr

/-- What comes back. A permit is the place of the breaker that issued it, with the state in which it
did so. -/
inductive Reply
  | breaker (place : Nat)
  | permit (answer : Except Rejection (Nat × State))
  | known (answer : Bool)
  | metrics (answer : Option Metrics)
  | nothing
deriving DecidableEq

/-- Something that is done for a service at a time. -/
structure Errand where
  time : Instant
  service : String
  deed : Deed
deriving DecidableEq, Repr

/-! ### One service -/

/-- The breakers of one service: those that were removed, the first one first, and the current
one. -/
structure Lineage where
  past : List Breaker
  current : Option Breaker
deriving DecidableEq

namespace Lineage

/-- All breakers, in the order in which they were made. -/
def made (l : Lineage) : List Breaker := l.past ++ l.current.toList

/-- The breaker at a place is changed. -/
def change (l : Lineage) (place : Nat) (f : Breaker → Breaker) : Lineage where
  past := l.past.modify place f
  current := if place = l.past.length then l.current.map f else l.current

/-- The current breaker is changed, if there is one. -/
def onCurrent (l : Lineage) (f : Breaker → Breaker) : Reply × Lineage :=
  (.known l.current.isSome, { l with current := l.current.map f })

/-- What becomes of the breakers of a service. -/
def step (l : Lineage) (limits : Limits) (now : Instant) : Deed → Reply × Lineage
  | .get =>
    (.breaker l.past.length, { l with current := some (l.current.getD (.create limits now)) })
  | .call =>
    let answer := (l.current.getD (.create limits now)).acquire now
    (.permit (answer.1.map (l.past.length, ·)), { l with current := some answer.2 })
  | .reset => l.onCurrent (·.reset now)
  | .disable => l.onCurrent (·.disable now)
  | .forceOpen => l.onCurrent (·.forceOpen now)
  | .remove => (.known l.current.isSome, ⟨l.made, none⟩)
  | .read => (.metrics (l.current.map (·.metrics now)), l)
  | .acquire place =>
    match l.made[place]? with
    | some b =>
      (.permit ((b.acquire now).1.map (place, ·)), l.change place fun b => (b.acquire now).2)
    | none => (.nothing, l)
  | .record place issuedIn success took =>
    (.nothing, l.change place (·.record issuedIn now success took))
  | .drop place issuedIn => (.nothing, l.change place (·.release issuedIn))
  | .look place => (.metrics (l.made[place]?.map (·.metrics now)), l)

/-- The breakers of a service after several errands. -/
def run (l : Lineage) (limits : Limits) : List Errand → Lineage
  | [] => l
  | e :: rest => (l.step limits e.time e.deed).2.run limits rest

/-- What comes back in turn. -/
def replies (l : Lineage) (limits : Limits) : List Errand → List Reply
  | [] => []
  | e :: rest =>
    (l.step limits e.time e.deed).1 :: (l.step limits e.time e.deed).2.replies limits rest

end Lineage

/-- At a place without a breaker nothing is changed. -/
theorem Lineage.change_of_none {l : Lineage} {place : Nat} (h : l.made[place]? = none)
    {f : Breaker → Breaker} : l.change place f = l := by
  obtain ⟨past, current⟩ := l
  have hlength : past.length + current.toList.length ≤ place := by
    simpa [made] using h
  rw [change, List.modify_eq_self (Nat.le_trans (Nat.le_add_right ..) hlength)]
  refine congrArg (Lineage.mk past) ?_
  cases current with
  | none => simp
  | some b => exact if_neg (Nat.ne_of_gt hlength)

/-! ### All services -/

/-- A registry and, by service, the breakers that were removed from it. -/
structure Usage where
  registry : Registry
  removed : Keyed String (List Registered)

namespace Usage

/-- Nothing has been done yet. -/
def start (limits : Limits) : Usage := ⟨.empty limits, .empty⟩

def past (u : Usage) (service : String) : List Registered := u.removed.findD service []

def current (u : Usage) (service : String) : Option Registered := u.registry.breakers.find service

/-- All breakers of a service, in the order in which they were made. -/
def made (u : Usage) (service : String) : List Registered :=
  u.past service ++ (u.current service).toList

/-- The place of the breaker with a serial number. -/
def place (u : Usage) (service : String) (serial : Nat) : Nat :=
  (u.made service).findIdx (·.serial == serial)

/-- A permit of the breaker at a place. -/
def permit? (u : Usage) (service : String) (place : Nat) (issuedIn : State) : Option Permit :=
  (u.made service)[place]?.map fun b => ⟨service, b.serial, issuedIn⟩

/-- The issuer of a permit is told something. The registry passes it on to a breaker of its own; one
that was removed is told itself. -/
def tell (u : Usage) (p : Permit) (registry : Registry) (f : Breaker → Breaker) : Usage where
  registry
  removed := u.removed.set p.service ((u.past p.service).map (.told p.serial f))

/-- The registry does something with the current breaker of a service. -/
def onRegistry (u : Usage) (answer : Bool × Registry) : Reply × Usage :=
  (.known answer.1, { u with registry := answer.2 })

/-- What becomes of the breakers of all services. -/
def step (u : Usage) (now : Instant) (service : String) : Deed → Reply × Usage
  | .get =>
    let answer := u.registry.ensure service now
    let u := { u with registry := answer.2 }
    (.breaker (u.place service answer.1.serial), u)
  | .call =>
    let answer := u.registry.acquire service now
    let u := { u with registry := answer.2 }
    (.permit (answer.1.map fun p => (u.place service p.serial, p.issuedIn)), u)
  | .reset => u.onRegistry (u.registry.reset service now)
  | .disable => u.onRegistry (u.registry.disable service now)
  | .forceOpen => u.onRegistry (u.registry.forceOpen service now)
  | .remove =>
    let u' := { u with removed := u.removed.set service (u.made service) }
    u'.onRegistry (u.registry.remove service)
  | .read => (.metrics ((u.registry.get service).map (·.metrics now)), u)
  | .acquire place =>
    match (u.made service)[place]? with
    | some b =>
      let p : Permit := ⟨service, b.serial, b.breaker.state⟩
      (.permit ((b.breaker.acquire now).1.map (place, ·)),
        u.tell p (u.registry.onIssuer p fun b => (b.acquire now).2) fun b => (b.acquire now).2)
    | none => (.nothing, u)
  | .record place issuedIn success took =>
    match u.permit? service place issuedIn with
    | some p =>
      (.nothing, u.tell p (u.registry.record p now success took)
        (·.record issuedIn now success took))
    | none => (.nothing, u)
  | .drop place issuedIn =>
    match u.permit? service place issuedIn with
    | some p => (.nothing, u.tell p (u.registry.release p) (·.release issuedIn))
    | none => (.nothing, u)
  | .look place => (.metrics ((u.made service)[place]?.map (·.breaker.metrics now)), u)

/-- The breakers after several errands. -/
def run (u : Usage) : List Errand → Usage
  | [] => u
  | e :: rest => (u.step e.time e.service e.deed).2.run rest

/-- What comes back in turn, with the service for which it does. -/
def replies (u : Usage) : List Errand → List (String × Reply)
  | [] => []
  | e :: rest =>
    (e.service, (u.step e.time e.service e.deed).1) ::
      (u.step e.time e.service e.deed).2.replies rest

/-- The breakers of a service without their serial numbers. -/
def lineage (u : Usage) (service : String) : Lineage where
  past := (u.past service).map (·.breaker)
  current := (u.current service).map (·.breaker)

/-- The serial numbers of a service. -/
def serials (u : Usage) (service : String) : List Nat := (u.made service).map (·.serial)

/-- The serial numbers of each service are different, and the next one is new. -/
structure Sound (u : Usage) : Prop where
  nodup : ∀ service, (u.serials service).Nodup
  lt : ∀ service, ∀ n ∈ u.serials service, n < u.registry.nextSerial

end Usage

end HttpGateway.Breaker
