/-
Routes.

* **Route** — a mount with the instances behind it.
* **Route.ofSpec** — a route as it is set, its filters sorted by their place; filters with the same
  place stay in the order in which they were given.
-/
import HttpGateway.Balance.Gray
import HttpGateway.Route.Instance
import HttpGateway.Route.Mount

namespace HttpGateway

open Settings

namespace Route

/-- Filters in the order in which they run. -/
def inOrder (filters : List FilterSpec) : List FilterSpec :=
  filters.mergeSort fun a b => a.order ≤ b.order

end Route

/-- A mount with the instances behind it. `installation` tells apart routes that are put into a table
one after another under the same id. -/
structure Route where
  id : String
  path : String
  balancing : Balancing
  gray : Option Balance.GrayPolicy
  filters : List FilterSpec
  resilient : Bool
  instances : List Route.Instance
  installation : Nat := 0
deriving DecidableEq, Repr

namespace Route

/-- A route as it is set. `resilient` holds where the route does not say. -/
def ofSpec (spec : RouteSpec) (resilient : Bool) : Except InstanceError Route := do
  let instances ← spec.instances.mapM Instance.ofSpec
  return { id := spec.id
           path := spec.path
           balancing := spec.balancing
           gray := spec.grayRelease.map .ofSpec
           filters := inOrder spec.filters
           resilient := spec.resilient.getD resilient
           instances }

/-- Changes the health of the instance at a place. -/
def modifyHealth (r : Route) (place : Nat) (f : Health → Health) : Route :=
  { r with instances := r.instances.modify place fun i => { i with health := f i.health } }

/-- Whether a path belongs to the route. -/
def serves (r : Route) (path : List Char) : Bool := underMount r.path.toList path

/-- The number of segments that the route takes off a path. -/
def depth (r : Route) : Nat := mountDepth r.path.toList

end Route

end HttpGateway
