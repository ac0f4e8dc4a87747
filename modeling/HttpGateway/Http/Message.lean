/-
Messages.

* **Response** — a status, fields and a body.
* **Response.plain** — a plain text, for what the gateway answers itself.
* **Response.sent** — what a connection sends of a response.
-/
import HttpGateway.Http.Field
import HttpGateway.Http.Status

namespace HttpGateway.Http

/-- Two bodies are the same if their bytes are. -/
instance (priority := 2000) decideBodies : DecidableEq ByteArray := fun a b =>
  decidable_of_iff (a.data = b.data) ⟨ByteArray.ext, fun h => h ▸ rfl⟩

/-- A response with its whole body. -/
structure Response where
  status : Status
  fields : Fields
  body : ByteArray
deriving DecidableEq, Inhabited

/-- The type of plain texts. -/
def plainText : String := "text/plain; charset=UTF-8"

/-- A text as a response. -/
def Response.plain (status : Status) (message : String) : Response :=
  ⟨status, Fields.empty.set "content-type" (FieldValue.ofAscii plainText), message.toUTF8⟩

/-- No bytes. -/
def emptyBody : ByteArray := ByteArray.empty

/-- What a connection sends of the answer to a request. There is no body where there must be none,
and no answer with an interim status. Fields that the connection puts in are left out. -/
def Response.sent (method : String) (r : Response) : Response :=
  if r.status.isInterim then ⟨.internalServerError, .empty, emptyBody⟩
  else if Bodiless method r.status then { r with body := emptyBody }
  else r

end HttpGateway.Http
