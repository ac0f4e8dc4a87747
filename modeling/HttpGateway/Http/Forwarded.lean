/-
Where a request came from.

* **clientAddress** — the client that a request speaks for: the first entry of `X-Forwarded-For`,
  else `X-Real-IP`, else the peer of the connection.
* **appendForwarded** — adds the peer to the end of `X-Forwarded-For`.
* **requestId** — the identification that the request carries.
-/
import HttpGateway.Http.Field
import HttpGateway.Net.Address
import HttpGateway.Text.Blank

namespace HttpGateway.Http

open Text Net

/-- The text of an address. -/
def addressText (ip : IpAddress) : String := String.ofList ip.text

/-- A text without white space around it, unless nothing else is there. -/
def nonBlank? (s : List Char) : Option String :=
  let t := trim s
  if t.isEmpty then none else some (String.ofList t)

/-- The first entry of the first `X-Forwarded-For` line. -/
def firstForwarded? (h : Fields) : Option String :=
  (h.text? "x-forwarded-for").bind fun s => nonBlank? (s.toList.takeWhile (· ≠ ','))

/-- The address in `X-Real-IP`. -/
def realAddress? (h : Fields) : Option String :=
  (h.text? "x-real-ip").bind fun s => nonBlank? s.toList

/-- The client that a request speaks for. -/
def clientAddress (h : Fields) (peer : SocketAddress) : String :=
  match firstForwarded? h with
  | some ip => ip
  | none => (realAddress? h).getD (addressText peer.ip)

/-- The chain of addresses with the peer at its end. -/
def forwardedChain (h : Fields) (peer : SocketAddress) : String :=
  match h.text? "x-forwarded-for" with
  | some chain =>
    if (trim chain.toList).isEmpty then addressText peer.ip
    else chain ++ ", " ++ addressText peer.ip
  | none => addressText peer.ip

/-- Adds the peer to the end of `X-Forwarded-For`; the chain then stands on one line. -/
def appendForwarded (h : Fields) (peer : SocketAddress) : Fields :=
  match FieldValue.ofText? (forwardedChain h peer) with
  | some v => h.set "x-forwarded-for" v
  | none => h

/-- The identification that a request carries, else one made for it. -/
def requestId (h : Fields) (made : String) : String := (h.text? "x-request-id").getD made

end HttpGateway.Http
