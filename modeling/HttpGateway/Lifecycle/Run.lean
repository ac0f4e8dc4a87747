/-
Running a gateway from its start to its end.

* **Task** — what waits for the signal to stop while a gateway runs: probing, discarding idle
  connections, and the server itself.
* **ServingEnd** — why the server ends.
* **run** — starts the tasks, takes the address and serves; when the server has ended the tasks get
  the signal, and the run is over when they have ended too. Where the address cannot be taken no
  signal is given, so that the tasks already started go on.
-/
import HttpGateway.Lifecycle.Shutdown
import HttpGateway.Lifecycle.Startup

namespace HttpGateway.Lifecycle

open Net

/-- What waits for the signal to stop while a gateway runs. -/
inductive Task
  | monitor
  | sweeper
  | server
deriving DecidableEq, Repr

/-- The name under which a task subscribes to the signal. -/
def Task.id : Task → String
  | monitor => "health monitor"
  | sweeper => "pool sweeper"
  | server => "server"

/-- The tasks that run beside the server. Probing ends at once where it is not wanted. -/
def backgroundTasks (s : Settings) : List Task :=
  if s.healthCheck.enabled then [.monitor, .sweeper] else [.sweeper]

/-- Why the server ends: it got the signal, or it failed. -/
inductive ServingEnd
  | stopped
  | failed (reason : String)
deriving DecidableEq, Repr

namespace Shutdown

/-- Tasks begin. -/
def enroll (s : Shutdown) (tasks : List Task) : Shutdown :=
  tasks.foldl (fun s t => s.subscribe t.id) s

/-- A task takes the signal and ends; `none` where the signal would never come. -/
def dismiss? (s : Shutdown) (t : Task) : Option Shutdown :=
  match s.receive t.id with
  | (some .signal, s) => some (s.unsubscribe t.id).2
  | _ => none

end Shutdown

/-- What comes of a run, and who still waits for the signal after it. -/
abbrev RunEnd := Except StartupError Unit × Shutdown

/-- The server runs until it gets the signal or fails. -/
def serve? (ending : ServingEnd) (shutdown : Shutdown) : Option RunEnd :=
  let shutdown := shutdown.subscribe Task.server.id
  match ending with
  | .stopped => (shutdown.trigger.dismiss? .server).map fun s => (.ok (), s)
  | .failed reason => some (.error (.server reason), (shutdown.unsubscribe Task.server.id).2)

/-- A whole run; `none` if it never ends. `bindFailure?` tells why an address cannot be taken. -/
def run (s : Settings) (jitter : Nat → Nat) (bindFailure? : SocketAddress → Option String)
    (ending : ServingEnd) (shutdown : Shutdown) : Option RunEnd :=
  match build s .builtin jitter with
  | .error e => some (.error e, shutdown)
  | .ok _ =>
    let tasks := backgroundTasks s
    let shutdown := shutdown.enroll tasks
    match bindError? s bindFailure? with
    | some e => some (.error e, shutdown)
    | none =>
      (serve? ending shutdown).bind fun (result, shutdown) =>
        (tasks.foldlM Shutdown.dismiss? shutdown.trigger).map fun s => (result, s)

end HttpGateway.Lifecycle
