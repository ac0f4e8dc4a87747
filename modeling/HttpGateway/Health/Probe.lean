/-
Probing instances.

* **probeTarget?** — where an instance is probed: below its base URL. A URL that is no target cannot
  be probed, and that counts as a failure.
* **probePort** — the port that a probe goes to.
* **Probe** — an instance that is to be probed, as it was when the round began.
* **Gateway.round** — the probes of all instances of all routes, in order.
* **Gateway.noteProbe** — takes the outcome of a probe into account.
-/
import HttpGateway.Gateway.Basic
import HttpGateway.Http.Target
import HttpGateway.Route.Mount

namespace HttpGateway

open Http

namespace Health

/-- An instance that is to be probed: the installation of its route, its place there, and what it
was like when the round began. -/
structure Probe where
  installation : Nat
  place : Nat
  probed : Route.Instance

/-- Where an instance is probed. -/
def probeTarget? (i : Route.Instance) (path : String) : Option Target :=
  (Target.parse (Route.withoutTrailingSlashes i.url.text ++ path.toList)).toOption

/-- The scheme of the targets that can be probed. -/
def probeScheme : List Char := "http".toList

/-- The port for which nothing is said. -/
def defaultPort : Nat := 80

/-- The port that a probe goes to. -/
def probePort (t : Target) : Nat := t.port?.elim defaultPort (·.2)

/-- The host of a probe as its field says it: with the port only where it is not the default
one. -/
def probeHost (t : Target) : List Char :=
  match t.port? with
  | some (written, port) => if port = defaultPort then t.host else t.host ++ ':' :: written
  | none => t.host

/-- The fields of a probe. -/
def probeFields (t : Target) : Fields :=
  (Fields.empty.set "user-agent" (FieldValue.ofAscii "api-gateway-health-check")).set "host"
    (FieldValue.ofAscii (String.ofList (probeHost t)))

/-- An instance after a probe. -/
def mark (s : Settings.HealthCheck) (healthy : Bool) (h : Route.Health) : Route.Health :=
  if healthy then (h.succeed s.healthyThreshold).2 else (h.fail s.unhealthyThreshold).2

end Health

namespace Gateway

open Health

/-- The probes of all instances of all routes. -/
def round (g : Gateway) : List Probe :=
  g.routes.flatMap fun r => r.instances.zipIdx.map fun (i, place) => ⟨r.installation, place, i⟩

/-- The place in the table of a route that was installed under a number. -/
def placeOf? (g : Gateway) (installation : Nat) : Option Nat :=
  g.routes.findIdx? (·.installation = installation)

/-- The health of the instance of a probe by now; that which it had if its route is gone. -/
def healthOf (g : Gateway) (p : Probe) : Route.Health :=
  (((g.placeOf? p.installation).bind (g.routes[·]?)).bind (·.instances[p.place]?)).elim
    p.probed.health (·.health)

/-- Takes the outcome of a probe into account. -/
def noteProbe (g : Gateway) (p : Probe) (healthy : Bool) : Gateway :=
  let h := mark g.healthCheck healthy (g.healthOf p)
  let g := match g.placeOf? p.installation with
    | some route => g.modifyHealth route p.place fun _ => h
    | none => g
  { g with metrics := g.metrics.health p.probed.text h.isHealthy }

end Gateway

end HttpGateway
