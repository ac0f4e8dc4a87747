/-
Bodies that tell when they have been handed over.

* **TrackedBody** — a body whose bytes are taken in one piece.
* **WriteSignal** — nothing yet, handed over, or given up before that.
* **TrackedBody.frame**, **TrackedBody.drop** — the body is asked for bytes, or let go. A body that
  has no bytes left counts as handed over as soon as it is asked or let go.
-/
import HttpGateway.Http.Message

namespace HttpGateway.Forward

/-- What is known about the bytes of a body. -/
inductive WriteSignal
  | waiting
  | written
  | dropped
deriving DecidableEq, Repr, Inhabited

/-- A body and its signal. -/
structure TrackedBody where
  data : Option ByteArray
  length : Nat
  signal : WriteSignal
deriving DecidableEq, Inhabited

namespace TrackedBody

/-- A body whose bytes are still there. -/
def ofBytes (bytes : ByteArray) : TrackedBody where
  data := if bytes.isEmpty then none else some bytes
  length := bytes.size
  signal := .waiting

/-- Gives the signal, unless it was given. -/
def signalWritten (b : TrackedBody) : TrackedBody :=
  { b with signal := if b.signal = .waiting then .written else b.signal }

/-- Hands over the bytes. -/
def frame (b : TrackedBody) : Option ByteArray × TrackedBody :=
  (b.data, { b with data := none }.signalWritten)

/-- Lets the body go. -/
def drop (b : TrackedBody) : TrackedBody :=
  if b.data.isNone then b.signalWritten
  else { b with signal := if b.signal = .waiting then .dropped else b.signal }

/-- Whether no bytes are left. -/
def isEnd (b : TrackedBody) : Bool := b.data.isNone

end TrackedBody

end HttpGateway.Forward
