/-
The place where the one response of a request is put.

* **ReplySlot** — a slot and the receiver that waits for it.
* **ReplySlot.respond** — the first response that is put in counts, and only if the receiver still
  waits; every later one is dropped.
* **ReplySlot.receive** — what the receiver finds.
-/
import HttpGateway.Http.Message

namespace HttpGateway.Request

open Http

/-- Where the response is: not there yet, put in, or taken out. -/
inductive Delivery
  | awaited
  | ready (response : Response)
  | over
deriving DecidableEq, Inhabited

/-- A slot and its receiver. -/
structure ReplySlot where
  terminated : Bool
  receiverGone : Bool
  delivery : Delivery
deriving DecidableEq, Inhabited

/-- What the receiver finds. -/
inductive Receipt
  | response (response : Response)
  | empty
  | closed
deriving DecidableEq

namespace ReplySlot

/-- No response has been put in. -/
def fresh : ReplySlot := ⟨false, false, .awaited⟩

/-- Puts a response in; tells whether it counts. -/
def respond (s : ReplySlot) (r : Response) : Bool × ReplySlot :=
  if s.terminated then (false, s)
  else if s.receiverGone then (false, { s with terminated := true, delivery := .over })
  else (true, { s with terminated := true, delivery := .ready r })

/-- Takes the response out, if there is one. -/
def receive (s : ReplySlot) : Receipt × ReplySlot :=
  match s.delivery with
  | .awaited => (.empty, s)
  | .ready r => (.response r, { s with delivery := .over })
  | .over => (.closed, s)

/-- The receiver no longer waits. -/
def dropReceiver (s : ReplySlot) : ReplySlot := { s with receiverGone := true }

end ReplySlot

end HttpGateway.Request
