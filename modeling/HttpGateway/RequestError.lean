/-
How a request can fail.

* **RequestError** — one constructor per cause.
* **RequestError.message** — the wording of a cause, for logs and fallbacks.
* **RequestError.status**, **RequestError.clientText** — what the client gets to see. The name and
  the fault of a backend are kept from it.
* **RequestError.retryable** — whether another attempt may be made.
-/
import HttpGateway.Http.Message

namespace HttpGateway

open Http

/-- Why a request failed. -/
inductive RequestError
  | rejected (status : Status) (message : String)
  | noRoute
  | noInstance
  | connect (address reason : String)
  | write (address reason : String)
  | exchange (address reason : String)
  | responseTooLarge (address : String) (limit : Nat)
  | poolExhausted (address : String)
  | responseTimeout (millis : Nat)
  | writeTimeout (millis : Nat)
  | idleTimeout (millis : Nat)
  | breakerOpen (service : String)
  | bodyTooLarge
  | busy
  | unexpected (reason : String)
deriving DecidableEq, Repr, Inhabited

namespace RequestError

/-- The wording of a cause. -/
def message : RequestError → String
  | rejected _ message => message
  | noRoute => "No route found"
  | noInstance => "No available instance"
  | connect address reason => "connect to " ++ address ++ " failed: " ++ reason
  | write address reason => "write to " ++ address ++ " failed: " ++ reason
  | exchange address reason => "exchange with " ++ address ++ " failed: " ++ reason
  | responseTooLarge address limit =>
    "response from " ++ address ++ " exceeds " ++ toString limit ++ " bytes"
  | poolExhausted address => "connection pool for " ++ address ++ " exhausted"
  | responseTimeout _ => "Upstream response timeout"
  | writeTimeout _ => "Upstream write timeout"
  | idleTimeout _ => "Upstream idle timeout"
  | breakerOpen _ => "Call not permitted by circuit breaker"
  | bodyTooLarge => "Payload too large"
  | busy => "Service busy"
  | unexpected reason => reason

/-- The status of the response to the client. -/
def status : RequestError → Status
  | rejected status _ => status
  | noRoute => .notFound
  | noInstance | poolExhausted _ | breakerOpen _ | busy => .serviceUnavailable
  | connect .. | write .. | exchange .. | responseTooLarge .. => .badGateway
  | responseTimeout _ | writeTimeout _ | idleTimeout _ => .gatewayTimeout
  | bodyTooLarge => .payloadTooLarge
  | unexpected _ => .internalServerError

/-- Whether another attempt may be made. Timeouts are final. -/
def retryable : RequestError → Bool
  | connect .. | write .. | exchange .. | poolExhausted _ => true
  | _ => false

/-- The text of the response to the client. -/
def clientText : RequestError → String
  | connect .. | write .. | exchange .. | responseTooLarge .. => "Bad gateway"
  | poolExhausted _ => "Service busy"
  | unexpected reason => "Gateway error: " ++ reason
  | e => e.message

/-- The response to the client. -/
def response (e : RequestError) : Response := .plain e.status e.clientText

end RequestError

end HttpGateway
