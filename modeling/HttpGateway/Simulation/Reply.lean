/-
Scripted replies of backends.

* **Reply** — what a backend does with one request.
* **Reply.schedule** — what happens on the connection then.
* **Reply.leavesOpen** — whether the connection is still open after that.
-/
import HttpGateway.Forward.Exchange
import HttpGateway.Http.Hop

namespace HttpGateway.Simulation

open Forward Http

/-- How the end of a body is told. -/
inductive Framing
  | length
  | chunked
  | untilClose
  | bodiless
deriving DecidableEq, Repr, Inhabited

/-- What a backend does in the end. The last three come in place of any answer. -/
inductive Finish
  | keep
  | close
  | stall
  | drop
  | silence
  | garbage
deriving DecidableEq, Repr, Inhabited

/-- A piece of a body, and the pause before it. -/
structure Piece where
  pause : Instant
  bytes : ByteArray

/-- What a backend does with one request. -/
structure Reply where
  delay : Instant := 0
  finish : Finish := .keep
  status : Status := .ok
  fields : Fields := .empty
  framing : Framing := .length
  declared : Option Nat := none
  body : ByteArray := emptyBody
  pieces : List Piece := []

namespace Reply

/-- The length that a head declares. -/
def length (r : Reply) : Nat := r.declared.getD r.body.size

/-- The head of the response. -/
def head (r : Reply) : Arrival :=
  .head r.status <| match r.framing with
    | .length => r.fields.append "content-length" (FieldValue.ofAscii (toString r.length))
    | .chunked => r.fields.append "transfer-encoding" (FieldValue.ofAscii "chunked")
    | .untilClose | .bodiless => r.fields

/-- Whether a response has no body, whatever its head says. -/
def withoutBody (r : Reply) (method : String) : Bool :=
  method == "HEAD" || r.status.code == 204 || r.status.code == 304

/-- Pieces with the times at which they come, from a time on. -/
def timed (now : Instant) : List Piece → List (Instant × ByteArray)
  | [] => []
  | p :: rest => (now + p.pause, p.bytes) :: timed (now + p.pause) rest

/-- The bytes that are sent, and when. -/
def sent (r : Reply) : List (Instant × ByteArray) :=
  let later := timed r.delay r.pieces
  let all := match r.framing with
    | .length | .untilClose => (r.delay, r.body) :: later
    | .chunked => later
    | .bodiless => []
  all.filter fun e => !e.2.isEmpty

/-- When the last byte is sent. -/
def lastMoment (r : Reply) : Instant := r.delay + (r.pieces.map (·.pause)).foldl (· + ·) 0

/-- The first `n` bytes of what is sent, and the time at which they are complete, if they are. -/
def upTo (now : Instant) : Nat → List (Instant × ByteArray) → Schedule × Option Instant
  | 0, _ => ([], some now)
  | _ + 1, [] => ([], none)
  | n + 1, (due, bytes) :: rest =>
    let taken := bytes.extract 0 (n + 1)
    let (s, complete) := upTo due (n + 1 - taken.size) rest
    ((due, .piece taken) :: s, complete)

/-- The pieces of a body without a length. -/
def allPieces (r : Reply) : Schedule := r.sent.map fun (due, bytes) => (due, .piece bytes)

/-- What a failure to read a body is called. -/
def bodyCut : String := "error reading a body from connection"

/-- A body whose connection is closed too early, or never. -/
def unfinished (r : Reply) : Schedule :=
  if r.finish = .close then [(r.lastMoment, .broken bodyCut)] else []

/-- The body of the response. -/
def bodySchedule (r : Reply) : Schedule :=
  match r.framing with
  | .length =>
    match upTo r.delay r.length r.sent with
    | (s, some complete) => s ++ [(complete, .finished)]
    | (s, none) => s ++ r.unfinished
  | .chunked =>
    r.allPieces ++ if r.finish = .keep then [(r.lastMoment, .finished)] else r.unfinished
  | .untilClose => r.allPieces ++ if r.finish = .stall then [] else [(r.lastMoment, .finished)]
  | .bodiless => if r.finish = .close then [(r.delay, .finished)] else []

/-- What happens on the connection. The request is taken at once. -/
def schedule (r : Reply) (method : String) : Schedule :=
  (0, .bodyTaken) :: match r.finish with
    | .drop => [(r.delay, .broken "connection closed before message completed")]
    | .silence => []
    | .garbage => [(r.delay, .broken "invalid HTTP version parsed")]
    | .keep | .close | .stall =>
      (r.delay, r.head) ::
        if r.withoutBody method then [(r.delay, .finished)] else r.bodySchedule

/-- Whether some token of the `Connection` lines asks to close. -/
def asksToClose (h : Fields) : Bool :=
  (namedByConnection h).any (· == "close")

/-- How many bytes are sent. -/
def sentBytes (r : Reply) : Nat := (r.sent.map (·.2.size)).foldl (· + ·) 0

/-- Whether the backend says nothing more on the connection, without closing it. -/
def goesSilent (r : Reply) : Bool := r.finish = .stall || r.finish = .silence

/-- Whether the connection is open when the response is complete. -/
def leavesOpen (r : Reply) (method : String) : Bool :=
  (r.finish = .keep || r.finish = .stall) && !asksToClose r.fields &&
    match r.framing with
    | .length => r.withoutBody method || r.sentBytes ≤ r.length
    | .chunked => true
    | .untilClose => false
    | .bodiless => r.withoutBody method

end Reply

end HttpGateway.Simulation
