/-
Fields that concern one connection only and are not passed on.

* **hopNames** — eight names that never are.
* **namedByConnection** — the names that the message itself lists in its `Connection` lines. A
  line that is no text names nothing, nor does an entry that is no field name.
* **stripHop** — the fields without both.
-/
import HttpGateway.Http.Message
import HttpGateway.Text.Blank

namespace HttpGateway.Http

open Text

/-- Fields that always concern one connection only. -/
def hopNames : List String :=
  ["connection", "keep-alive", "proxy-authenticate", "proxy-authorization", "te", "trailer",
    "transfer-encoding", "upgrade"]

/-- The entries of a list with commas between them, without the white space around each. -/
def commaEntries (s : String) : List String :=
  (s.toList.splitOn ',').map fun e => String.ofList (trim e)

/-- The names that one `Connection` line lists. -/
def namesInLine (v : FieldValue) : List String :=
  match v.text? with
  | some s => (commaEntries s).filterMap fieldName?
  | none => []

/-- The names that all `Connection` lines list. -/
def namedByConnection (h : Fields) : List String :=
  (h.getAll "connection").flatMap namesInLine

/-- Drops the fields that concern one connection only. -/
def stripHop (h : Fields) : Fields :=
  (h.eraseAll (namedByConnection h)).eraseAll hopNames

/-- What the client gets of a response from a backend: the body is framed anew from its bytes. -/
def Response.forClient (r : Response) : Response :=
  { r with fields := (stripHop r.fields).erase "content-length" }

end HttpGateway.Http
