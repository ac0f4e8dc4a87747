/-
Starting a gateway.

* **StartupError** — why a gateway cannot start.
* **build** — a gateway for settings that make sense with the filters that there are.
* **bindError?** — why its address cannot be taken. That is tried last, so that requests come only
  when everything is there.
-/
import HttpGateway.Gateway.Basic
import HttpGateway.Settings.Load

namespace HttpGateway.Lifecycle

open Net

/-- Why a gateway cannot start. -/
inductive StartupError
  | settings (e : Settings.LoadError)
  | route (e : Route.InstanceError)
  | bind (address reason : String)
  | server (reason : String)
deriving DecidableEq, Repr

/-- The wording of a cause. -/
def StartupError.message : StartupError → String
  | settings e => e.message
  | route e => "Invalid route: " ++ e.message
  | bind address reason => "Failed to bind " ++ address ++ ": " ++ reason
  | server reason => "Server error: " ++ reason

/-- A gateway for settings that make sense. -/
def build (s : Settings) (filters : Filter.Registry) (jitter : Nat → Nat) :
    Except StartupError Gateway := do
  let s ← (s.accept filters.names).mapError .settings
  (Gateway.ofSettings s filters jitter).mapError .route

/-- Why a gateway cannot take its address. `bindFailure?` tells it of any address. -/
def bindError? (s : Settings) (bindFailure? : SocketAddress → Option String) :
    Option StartupError :=
  let address := s.listener.bindAddress
  match SocketAddress.parse? address.toList with
  | none => some (.bind address "invalid socket address")
  | some a => (bindFailure? a).map (.bind address)

end HttpGateway.Lifecycle
