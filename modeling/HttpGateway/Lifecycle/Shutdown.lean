/-
The signal to stop.

* **Shutdown** — whether the signal was given, and who has subscribed to it.
* **Shutdown.trigger** — gives the signal to all who have subscribed by then; only the first call
  does.
* **Shutdown.receive** — takes the signal, which a subscriber gets once.
-/
namespace HttpGateway.Lifecycle

/-- A subscriber, and whether the signal waits for it. -/
structure Subscriber where
  id : String
  pending : Bool
deriving DecidableEq, Repr

/-- The signal to stop. -/
structure Shutdown where
  triggered : Bool
  subscribers : List Subscriber
deriving DecidableEq, Repr, Inhabited

/-- What a subscriber finds. -/
inductive Reception
  | signal
  | empty
deriving DecidableEq, Repr

namespace Shutdown

/-- Not triggered, with no subscribers. -/
def fresh : Shutdown := ⟨false, []⟩

/-- The subscriber with an id. -/
def find? (s : Shutdown) (id : String) : Option Subscriber := s.subscribers.find? (·.id = id)

/-- Ends a subscription; tells whether there was one. -/
def unsubscribe (s : Shutdown) (id : String) : Bool × Shutdown :=
  ((s.find? id).isSome, { s with subscribers := s.subscribers.filter (·.id ≠ id) })

/-- Subscribes to signals given from now on. An earlier subscription under the id ends. -/
def subscribe (s : Shutdown) (id : String) : Shutdown :=
  let s := (s.unsubscribe id).2
  { s with subscribers := s.subscribers ++ [⟨id, false⟩] }

/-- Gives the signal. -/
def trigger (s : Shutdown) : Shutdown :=
  if s.triggered then s
  else ⟨true, s.subscribers.map fun r => { r with pending := true }⟩

/-- Takes the signal, if it waits; `none` for one who has not subscribed. -/
def receive (s : Shutdown) (id : String) : Option Reception × Shutdown :=
  match s.find? id with
  | none => (none, s)
  | some r =>
    if r.pending then
      (some .signal,
        { s with subscribers := s.subscribers.map fun r =>
            if r.id = id then { r with pending := false } else r })
    else (some .empty, s)

/-- How many have subscribed. -/
def receiverCount (s : Shutdown) : Nat := s.subscribers.length

end Shutdown

end HttpGateway.Lifecycle
