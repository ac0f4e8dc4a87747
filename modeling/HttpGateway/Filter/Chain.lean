/-
Running filters one after another.

* **builtinNames**, **Registry.builtin** — the filters that are always there.
* **runFilters** — applies filters in order until one turns the request away, breaks down, or is not
  known. What the filters up to that one left with the request stays with it.
-/
import HttpGateway.Filter.Bearer
import HttpGateway.Filter.RateLimit
import HttpGateway.RequestError

namespace HttpGateway.Filter

open Request Settings

/-- The registry with the built-in filters. -/
def Registry.builtin : Registry := (Registry.register .empty Bearer.filter).register RateLimit.filter

/-- The names of the built-in filters. -/
def builtinNames : List String := [Bearer.filter.name, RateLimit.filter.name]

/-- What a chain of filters comes to. -/
inductive ChainResult
  | passed
  | failed (e : RequestError)
  | brokenDown
deriving DecidableEq, Repr

/-- A filter that is not known. -/
def unregistered (name : String) : RequestError :=
  .unexpected ("filter '" ++ name ++ "' is not registered")

/-- Applies filters in order. -/
def runFilters (registry : Registry) (now : Instant) :
    List FilterSpec → Context → FilterMemory → ChainResult × Context × FilterMemory
  | [], c, memory => (.passed, c, memory)
  | spec :: rest, c, memory =>
    match registry.find spec.name with
    | none => (.failed (unregistered spec.name), c, memory)
    | some f =>
      match f.apply spec.args now c memory with
      | (.pass c, memory) => runFilters registry now rest c memory
      | (.turnAway c status message, memory) => (.failed (.rejected status message), c, memory)
      | (.breakDown, memory) => (.brokenDown, c, memory)

end HttpGateway.Filter
