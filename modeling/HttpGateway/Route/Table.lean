/-
Tables of routes.

* **Table** — routes in order. The first one that serves a path gets it.
* **Table.add** — puts a route in the place of the one with its id, or at the end.
* **Table.remove** — takes a route out.
-/
import HttpGateway.Route.Basic

namespace HttpGateway.Route

open Settings

/-- Routes in order. -/
abbrev Table := List Route

namespace Table

/-- The table of several routes as they are set. -/
def ofSpecs (specs : List RouteSpec) (resilient : Bool) : Except InstanceError Table :=
  specs.mapM (Route.ofSpec · resilient)

/-- The first route that serves a path. -/
def find? (t : Table) (path : List Char) : Option Route := List.find? (·.serves path) t

/-- Replaces the first route with the id of `r`. -/
def replaceFirst (r : Route) : Table → Option Table
  | [] => none
  | r' :: rest =>
    if r'.id = r.id then some (r :: rest) else (replaceFirst r rest).map (r' :: ·)

/-- Puts a route in the place of the one with its id, or at the end. -/
def add (t : Table) (r : Route) : Table := (replaceFirst r t).getD (t ++ [r])

/-- Whether a route has the id. -/
def hasId (t : Table) (id : String) : Bool := t.any (·.id = id)

/-- Takes the route with an id out; tells whether there was one. -/
def remove (t : Table) (id : String) : Bool × Table := (t.hasId id, t.filter (·.id ≠ id))

end Table

end HttpGateway.Route
