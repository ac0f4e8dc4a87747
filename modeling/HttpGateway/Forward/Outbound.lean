/-
Requests as they are sent to an instance.

* **Outbound** — method, target, fields and body of a request to an instance.
* **Outbound.ofRequest** — what an inbound request becomes: its path is moved below the base path of
  the instance, the fields that concern one connection only are left out, and the gateway's own
  fields are put in.
* **Outbound.target** — the target as it is sent.
-/
import HttpGateway.Http.Forwarded
import HttpGateway.Http.Hop
import HttpGateway.Http.Target
import HttpGateway.RequestError
import HttpGateway.Route.Instance
import HttpGateway.Route.Mount

namespace HttpGateway.Forward

open Http Net Route

/-- A request to an instance. -/
structure Outbound where
  method : String
  pathAndQuery : String
  fields : Fields
  body : ByteArray
  authority : String
deriving DecidableEq, Inhabited

namespace Outbound

/-- The fields of a request to an instance. -/
def fieldsFor (inbound : Fields) (host : FieldValue) (peer : SocketAddress) (requestId : String)
    (timeoutMs : UInt64) : Fields :=
  let h := ((stripHop inbound).erase "host").erase "content-length"
  let h := appendForwarded (h.set "host" host) peer
  let h := match FieldValue.ofText? requestId with
    | some id => h.set "x-request-id" id
    | none => h
  h.set "x-request-timeout" (FieldValue.ofAscii (toString timeoutMs))

/-- What an inbound request becomes. `depth` is the number of segments that the route takes off. -/
def ofRequest (method : String) (target : Target) (inbound : Fields) (body : ByteArray)
    (depth : Nat) (i : Instance) (peer : SocketAddress) (requestId : String) (timeoutMs : UInt64) :
    Except RequestError Outbound :=
  match FieldValue.ofText? i.hostField with
  | none => .error (.unexpected "invalid host header: failed to parse header value")
  | some host =>
    .ok { method
          pathAndQuery := String.ofList (backendTarget target.path target.query depth i.url.path)
          fields := fieldsFor inbound host peer requestId timeoutMs
          body
          authority := i.authority }

/-- The whole URL of a request, for logs. -/
def url (r : Outbound) : String := "http://" ++ r.authority ++ r.pathAndQuery

/-- The target as it is sent. -/
def target (r : Outbound) : Except RequestError Target :=
  match Target.parse r.pathAndQuery.toList with
  | .ok t => .ok t
  | .error e => .error (.unexpected ("invalid outbound request: " ++ e.message))

end Outbound

end HttpGateway.Forward
