/-
Requests as they come in, and responses as they go out.

* **Incoming** — a request whose body may prove unreadable.
* **Incoming.identified** — every request has an identification; where it brings none it gets one.
* **Incoming.bodyWithin** — the body, if it can be read and is not too long.
* **outgoing** — a response with its length and the identification of the request. The answer to
  `HEAD` tells the length of a body that it does not have. A `CONNECT` that succeeds is answered
  without a body and without a length.
* **delivered** — what the client gets of it.
-/
import HttpGateway.Request.Context
import HttpGateway.RequestError

namespace HttpGateway.Request

open Http Net

/-- A request as it comes in. The body is an error text if it cannot be read. -/
structure Incoming where
  method : String
  target : Target
  fields : Fields
  body : Except String ByteArray
  peer : SocketAddress

/-- The field that identifies a request. -/
def idField : String := "x-request-id"

namespace Incoming

/-- The request with an identification. -/
def identified (r : Incoming) (made : String) : Incoming :=
  if r.fields.contains idField then r
  else { r with fields := r.fields.append idField (FieldValue.ofAscii made) }

/-- Whether a request is for the gateway at all: its target has a path. -/
def hasPath (r : Incoming) : Bool := r.target.path.head? == some '/'

/-- The body, if it can be read and has no more than `most` bytes. -/
def bodyWithin (r : Incoming) (most : Nat) : Except RequestError ByteArray :=
  match r.body with
  | .error reason => .error (.unexpected ("failed to read request body: " ++ reason))
  | .ok bytes => if most < bytes.size then .error .bodyTooLarge else .ok bytes

/-- What is known about the request at first. -/
def context (r : Incoming) (made : String) (body : ByteArray) : Context :=
  .ofRequest (requestId r.fields made) r.method r.target r.fields body r.peer

end Incoming

/-- The answer to a request that is not for the gateway. -/
def notHandled : Response := ⟨.notFound, .empty, emptyBody⟩

/-- A field that a response has, or gets. -/
def withDefault (h : Fields) (name : String) (v : Option FieldValue) : Fields :=
  match v with
  | some v => if h.contains name then h else h.set name v
  | none => h

/-- A response as it is handed to the connection, which sends what it can of it. -/
def outgoing (r : Incoming) (answer : Response) : Response :=
  let fields := withDefault answer.fields idField (r.fields.get? idField)
  if r.method = "CONNECT" ∧ answer.status.isSuccess then { answer with fields, body := emptyBody }
  else
    let length := FieldValue.ofAscii (toString answer.body.size)
    { answer with
      fields := withDefault fields "content-length" (some length)
      body := if r.method == "HEAD" then emptyBody else answer.body }

/-- What the client gets of an answer to its request. -/
def delivered (r : Incoming) (answer : Response) : Response := (outgoing r answer).sent r.method

end HttpGateway.Request
