/-
Filters: steps that let a request pass, change it, or turn it away.

* **Filter** — a name and what it does to a request with given arguments at a given time.
* **FilterMemory** — what filters remember between requests.
* **Registry** — filters by name. A filter takes the place of the one with its name.
-/
import HttpGateway.Number.Floating
import HttpGateway.Request.Context
import HttpGateway.Time

namespace HttpGateway.Filter

open Http Request

/-- Arguments of a filter. -/
abbrev Args := List (String × String)

/-- The argument with a name. -/
def argument? (args : Args) (name : String) : Option String := Keyed.findIn name args

/-- A supply of tokens: how many there were at a time. -/
structure TokenBucket where
  tokens : Number.Floating
  updated : Instant
deriving DecidableEq, Repr, Inhabited

/-- What filters remember: the buckets of rate limits, and notes. -/
structure FilterMemory where
  buckets : Keyed String TokenBucket := .empty
  notes : List String := []
deriving Inhabited

/-- What becomes of a request, and as what the filter leaves it. A filter that breaks down gives no
answer. -/
inductive Outcome
  | pass (c : Context)
  | turnAway (c : Context) (status : Status) (message : String)
  | breakDown

end Filter

/-- A step that lets a request pass, changes it, or turns it away. -/
structure Filter where
  name : String
  apply : Filter.Args → Instant → Request.Context → Filter.FilterMemory →
    Filter.Outcome × Filter.FilterMemory

namespace Filter

/-- Filters by name. -/
abbrev Registry := Keyed String Filter

/-- Puts a filter in, in the place of the one with its name. -/
def Registry.register (r : Registry) (f : Filter) : Registry := r.set f.name f

/-- The names of all filters, sorted. -/
def Registry.names (r : Registry) : List String := r.keys.mergeSort

end Filter

end HttpGateway
