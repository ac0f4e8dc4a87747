/-
Selecting an instance for a request.

* **Balancers** — the turns of all routes.
* **Balancers.select** — the position of an instance of a route. Only healthy instances are
  candidates. Where the route has a gray policy, the request goes to the group that it belongs to,
  as long as that group has a healthy instance; each group has turns of its own. A policy that
  cannot be evaluated counts as none.
-/
import HttpGateway.Balance.RoundRobin
import HttpGateway.Balance.Weighted
import HttpGateway.RequestError
import HttpGateway.Route.Basic

namespace HttpGateway.Balance

open Http Route Settings

/-- The turns of all routes, by balancing policy. -/
structure Balancers where
  roundRobin : RoundRobin
  weighted : Weighted
deriving Inhabited

/-- An instance and its position in the route. -/
abbrev Candidate := Nat × Instance

/-- The healthy instances of a route. -/
def healthyCandidates (r : Route) : List Candidate :=
  (r.instances.zipIdx.map fun (i, k) => (k, i)).filter (·.2.isHealthy)

/-- The group that a request belongs to; `none` where the route does not tell groups apart. -/
def grayGroup (r : Route) (h : Fields) (client : String) : Option Bool :=
  match r.gray with
  | none => none
  | some policy => if policy.enabled then (policy.evaluate h client).toOption else none

/-- The candidates that take turns for a request, and the key of their turns. -/
def partition (r : Route) (healthy : List Candidate) (group : Option Bool) :
    String × List Candidate :=
  match group with
  | none => (r.id, healthy)
  | some g =>
    let members := healthy.filter (·.2.gray == g)
    if members.isEmpty then (r.id, healthy)
    else (r.id ++ (if g then ":gray" else ":base"), members)

namespace Balancers

def empty : Balancers := ⟨.empty, .empty⟩

/-- The position of the candidate whose turn it is. -/
def choose (b : Balancers) (policy : Balancing) (key : String) (weights : List Nat) :
    Option Nat × Balancers :=
  match policy with
  | .roundRobin =>
    let (i, turns) := b.roundRobin.choose key weights.length
    (i, { b with roundRobin := turns })
  | .weightedRoundRobin =>
    let (i, turns) := b.weighted.choose key weights
    (i, { b with weighted := turns })

/-- The instance of a route for a request. -/
def select (b : Balancers) (r : Route) (h : Fields) (client : String) :
    Except RequestError Candidate × Balancers :=
  let healthy := healthyCandidates r
  if healthy.isEmpty then (.error .noInstance, b)
  else
    let (key, candidates) := partition r healthy (grayGroup r h client)
    let (i?, b) := b.choose r.balancing key (candidates.map (·.2.weight))
    match i?.bind (candidates[·]?) with
    | some c => (.ok c, b)
    | none => (.error .noInstance, b)

end Balancers

end HttpGateway.Balance
