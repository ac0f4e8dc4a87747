/-
Responses that stand in for a service that fails.

* **Fallback** — a fixed response for a service.
* **Fallbacks.answer** — the response for a service; one that has none gets a plain text with the
  reason.
-/
import HttpGateway.Http.Message
import HttpGateway.Keyed
import HttpGateway.Settings.Schema

namespace HttpGateway

open Http

/-- A fixed response. -/
structure Fallback where
  status : Status
  body : String
  contentType : FieldValue
deriving DecidableEq, Repr, Inhabited

namespace Fallback

/-- The response that is set. What cannot be a status or a field value is replaced. -/
def ofSpec (spec : Settings.FallbackSpec) : Fallback where
  status := (Status.ofCode? spec.status).getD .ok
  body := spec.body
  contentType :=
    (FieldValue.ofText? spec.contentType).getD (FieldValue.ofAscii "application/octet-stream")

def response (f : Fallback) : Response :=
  ⟨f.status, Fields.empty.set "content-type" f.contentType, f.body.toUTF8⟩

end Fallback

/-- Fixed responses by service. -/
abbrev Fallbacks := Keyed String Fallback

namespace Fallbacks

/-- Gives a service the response that is set. -/
def register (f : Fallbacks) (spec : Settings.FallbackSpec) : Fallbacks :=
  f.set spec.serviceId (.ofSpec spec)

/-- The responses that are set; the last one of a service counts. -/
def ofSpecs (specs : List Settings.FallbackSpec) : Fallbacks := specs.foldl register .empty

/-- Takes the response of a service away; tells whether there was one. -/
def remove (f : Fallbacks) (service : String) : Bool × Fallbacks :=
  (f.contains service, f.erase service)

/-- The response for a service without one of its own. -/
def unavailable (reason : String) : Response :=
  .plain .serviceUnavailable ("Service temporarily unavailable: " ++ reason)

/-- The response for a service. -/
def answer (f : Fallbacks) (service reason : String) : Response :=
  match f.find service with
  | some fallback => fallback.response
  | none => unavailable reason

end Fallbacks

end HttpGateway
