/-
The pools of all backends.

* **Pools.ensure** — the pool of a backend, by host and port; the first use makes it.
* **Pools.evict** — discards, in all of them, what can no longer be used.
-/
import HttpGateway.Pool.Basic

namespace HttpGateway

/-- The pools of all backends, by host and port. -/
structure Pools where
  limits : Pool.Limits
  pools : Keyed String Pool := .empty
deriving Inhabited

namespace Pools

/-- The pool of a backend. -/
def get (s : Pools) (authority : String) : Option Pool := s.pools.find authority

/-- Puts back the pool of a backend. -/
def put (s : Pools) (p : Pool) : Pools := { s with pools := s.pools.set p.authority p }

/-- Makes the pool of a backend, if it has none. -/
def ensure (s : Pools) (authority : String) : Pool × Pools :=
  match s.get authority with
  | some p => (p, s)
  | none =>
    let p := Pool.create s.limits authority
    (p, s.put p)

/-- Changes the pool of a backend, if it has one. -/
def modify (s : Pools) (authority : String) (f : Pool → Pool) : Pools :=
  { s with pools := s.pools.update authority f }

/-- Discards the idle connections that can no longer be used; tells how many. -/
def evict (s : Pools) (now : Instant) : Nat × Pools :=
  let swept := s.pools.entries.map fun (authority, p) => (authority, p.evict now)
  let pools := swept.map fun (authority, r) => (authority, r.2)
  ((swept.map (·.2.1)).foldl (· + ·) 0, { s with pools := ⟨pools⟩ })

end Pools

end HttpGateway
