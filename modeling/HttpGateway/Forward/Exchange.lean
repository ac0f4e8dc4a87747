/-
One exchange with a backend: a request is handed to a connection, and the response read.

* **Schedule** — what happens on the connection, and when, counted from the moment at which the
  request was handed over.
* **exchange** — how that ends, and after what time. The response has to be complete by the response
  timeout. The connection has to take the body of the request by the write timeout, and no pause
  before a piece of the response may be as long as the idle timeout.
* **settle** — what becomes of the connection: it goes back to its pool only after a complete
  response that does not ask to close it.
-/
import HttpGateway.Deadline
import HttpGateway.Forward.TrackedBody
import HttpGateway.Pool.Basic
import HttpGateway.Text.Numeral

namespace HttpGateway.Forward

open Http Text

/-- What happens on a connection after a request was handed to it. -/
inductive Arrival
  | bodyTaken
  | bodyDropped
  | head (status : Status) (fields : Fields)
  | piece (bytes : ByteArray)
  | finished
  | broken (reason : String)
deriving DecidableEq

/-- What happens, in order of time. -/
abbrev Schedule := List (Instant × Arrival)

/-- What holds for an exchange: how long to wait, how much to take in, and whom to name. -/
structure Terms where
  timeouts : BackendTimeouts
  mostBytes : Nat
  address : String
deriving DecidableEq, Repr, Inhabited

/-- How an exchange ended, and after what time. -/
structure Ending where
  outcome : Except RequestError Response
  took : Instant

namespace Terms

/-- How long to wait for the head, and what it means when that is over. -/
def headLimit (x : Terms) (signal : WriteSignal) : Instant × RequestError :=
  if signal = .waiting ∧ x.timeouts.write < x.timeouts.response then
    (x.timeouts.write, .writeTimeout x.timeouts.write.millis)
  else (x.timeouts.response, .responseTimeout x.timeouts.response.millis)

/-- How long to wait for more of the body, and what it means when that is over. -/
def bodyLimit (x : Terms) (since : Instant) : Instant × RequestError :=
  if since + x.timeouts.idle < x.timeouts.response then
    (since + x.timeouts.idle, .idleTimeout x.timeouts.idle.millis)
  else (x.timeouts.response, .responseTimeout x.timeouts.response.millis)

/-- That a response is too large. -/
def tooLarge (x : Terms) : RequestError := .responseTooLarge x.address x.mostBytes

end Terms

/-- The length that the first `Content-Length` line gives. -/
def declaredLength? (h : Fields) : Option Nat :=
  (h.text? "content-length").bind fun s => unsigned? (Nat.pow 2 64) s.toList

/-- What is known about the body of the request after a signal. Only the first one counts. -/
def WriteSignal.followedBy (earlier later : WriteSignal) : WriteSignal :=
  if earlier = .waiting then later else earlier

/-- Reads the body of a response. `since` is when something came last. -/
def readBody (x : Terms) (status : Status) (fields : Fields) :
    ByteArray → Instant → Schedule → Ending
  | _, since, [] => ⟨.error (x.bodyLimit since).2, (x.bodyLimit since).1⟩
  | body, since, (due, a) :: rest =>
    if (x.bodyLimit since).1 < due then ⟨.error (x.bodyLimit since).2, (x.bodyLimit since).1⟩
    else match a with
      | .piece bytes =>
        if x.mostBytes < body.size + bytes.size then ⟨.error x.tooLarge, due⟩
        else readBody x status fields (body ++ bytes) due rest
      | .finished => ⟨.ok ⟨status, fields, body⟩, due⟩
      | .broken reason => ⟨.error (.exchange x.address reason), due⟩
      | .head .. | .bodyTaken | .bodyDropped => readBody x status fields body since rest

/-- Waits for the head of a response. A connection that breaks before it has taken the body of the
request could not be written to. -/
def awaitHead (x : Terms) : WriteSignal → Schedule → Ending
  | signal, [] => ⟨.error (x.headLimit signal).2, (x.headLimit signal).1⟩
  | signal, (due, a) :: rest =>
    if (x.headLimit signal).1 < due then ⟨.error (x.headLimit signal).2, (x.headLimit signal).1⟩
    else match a with
      | .bodyTaken => awaitHead x (signal.followedBy .written) rest
      | .bodyDropped => awaitHead x (signal.followedBy .dropped) rest
      | .head status fields =>
        if x.mostBytes < (declaredLength? fields).getD 0 then ⟨.error x.tooLarge, due⟩
        else readBody x status fields emptyBody due rest
      | .broken reason =>
        ⟨.error (if signal = .written then .exchange x.address reason
          else .write x.address reason), due⟩
      | .piece _ | .finished => awaitHead x signal rest

/-- How an exchange ends. -/
def exchange (x : Terms) (s : Schedule) : Ending := awaitHead x .waiting s

/-- Whether a response asks to close the connection. -/
def asksToClose (h : Fields) : Bool := (h.text? "connection").any (·.toLower == "close")

/-- Whether the connection can be used again after an exchange. -/
def reusable : Except RequestError Response → Bool
  | .ok r => !asksToClose r.fields
  | .error _ => false

/-- Gives the connection of an exchange back to its pool, or closes it. -/
def settle (p : Pool) (ticket : Nat) (now : Instant) (outcome : Except RequestError Response) :
    Pool :=
  if reusable outcome then p.release ticket now else p.leave ticket

end HttpGateway.Forward
