/-
What is known about a request while it is handled.

* **Context** — the request with its body, the client that it speaks for, the route and the
  instance chosen for it, values that filters leave, and the slot for its response.
* **Context.debugText** — all of that on one line, for logs.
-/
import HttpGateway.Http.Forwarded
import HttpGateway.Http.Target
import HttpGateway.Keyed
import HttpGateway.Request.Slot
import HttpGateway.Route.Basic
import HttpGateway.Text.Quoted

namespace HttpGateway.Request

open Http Net Text

/-- A value that a filter leaves for those after it. -/
inductive Attribute
  | byte (n : Nat)
  | word (n : Nat)
  | text (s : String)
deriving DecidableEq, Repr

/-- What is known about a request. -/
structure Context where
  requestId : String
  method : String
  target : Target
  fields : Fields
  body : ByteArray
  peer : SocketAddress
  client : String
  route : Option Route := none
  chosen : Option Route.Instance := none
  forwarded : Bool := false
  attributes : Keyed String Attribute := .empty
  slot : ReplySlot := .fresh

namespace Context

/-- A request that has just come in. -/
def ofRequest (requestId method : String) (target : Target) (fields : Fields) (body : ByteArray)
    (peer : SocketAddress) : Context where
  requestId
  method
  target
  fields
  body
  peer
  client := clientAddress fields peer

/-- The path of the request. -/
def path (c : Context) : List Char := c.target.path

/-- The first line of a field, if it is a text. -/
def header (c : Context) (name : String) : Option String :=
  (fieldName? name).bind c.fields.text?

/-- Leaves a value. -/
def setAttribute (c : Context) (key : String) (a : Attribute) : Context :=
  { c with attributes := c.attributes.set key a }

/-- The text left under a key. -/
def textAttribute (c : Context) (key : String) : Option String :=
  match c.attributes.find key with
  | some (.text s) => some s
  | _ => none

/-- Takes a value away; tells whether there was one. -/
def removeAttribute (c : Context) (key : String) : Bool × Context :=
  (c.attributes.contains key, { c with attributes := c.attributes.erase key })

/-- Puts the response in the slot; tells whether it counts. -/
def respond (c : Context) (r : Response) : Bool × Context :=
  let (wrote, slot) := c.slot.respond r
  (wrote, { c with slot })

/-- An optional text in quotes. -/
def optionText : Option String → String
  | some s => "Some(" ++ quoted s ++ ")"
  | none => "None"

/-- All that is known, on one line. -/
def debugText (c : Context) : String :=
  let items : List (String × String) :=
    [("request_id", quoted c.requestId),
     ("method", c.method),
     ("uri", String.ofList c.target.text),
     ("client_ip", quoted c.client),
     ("route", optionText (c.route.map (·.id))),
     ("instance", optionText (c.chosen.map (·.authority))),
     ("forwarded", toString c.forwarded),
     ("attributes", "[" ++ ", ".intercalate (c.attributes.keys.map quoted) ++ "]"),
     ("terminated", toString c.slot.terminated)]
  "RequestContext \x7b " ++ ", ".intercalate (items.map fun (k, v) => k ++ ": " ++ v) ++ " \x7d"

end Context

end HttpGateway.Request
