/-
A gateway at work, in front of scripted backends.

* **GatewayRun.serve** — a request, from its arrival to its response.
* **GatewayRun.serveAll** — several requests that come in at the same time.
* **GatewayRun.checkHealth** — one round of probes.
* **GatewayRun.watch**, **GatewayRun.shutDown** — starts what runs in the background, and ends it.
* **GatewayRun.closeBackend** — a backend closes all its connections.

Several requests may be under way. Each of them waits for something: a connection, the end of an
exchange, or the next attempt. `GatewayRun.proceed` lets the first go on that can.
-/
import HttpGateway.Gateway.Pipeline
import HttpGateway.Request.Desk
import HttpGateway.Request.Incoming
import HttpGateway.Simulation.Checkup
import HttpGateway.Simulation.Connecting

namespace HttpGateway.Simulation

open Forward Http Request

/-- What a request on its way to a backend waits for. -/
inductive Phase
  | connecting (c : Connecting)
  | exchanging (l : Lent) (e : Ending) (due : Instant) (leavesOpen : Bool)
  | pausing (due : Instant)

/-- A request on its way to a backend: its number and that of its visit, and the attempt that it is
at. -/
structure Flight where
  visit : Nat
  incoming : Incoming
  passage : Passage
  attempt : Nat
  phase : Phase

/-- What runs apart from requests: probing every so often, one round of probes, and discarding idle
connections every so often. -/
inductive Chore
  | monitor (next : Instant) (round : Option Checkup)
  | checkup (round : Checkup)
  | sweeper (next : Instant)

/-- When a request goes on by itself at the latest. -/
def Flight.due (f : Flight) : Instant :=
  match f.phase with
  | .connecting c => c.deadline
  | .exchanging _ _ due _ => due
  | .pausing due => due

namespace Chore

/-- When a chore goes on. -/
def due (now : Instant) : Chore → Instant
  | .monitor next none => next
  | .monitor _ (some round) => round.due now
  | .checkup round => round.due now
  | .sweeper next => next

/-- Whether a chore ends when all is to stop. A round of probes is finished first. -/
def endsNow : Chore → Bool
  | .monitor _ none => true
  | .monitor _ (some _) => false
  | .checkup _ => false
  | .sweeper _ => true

end Chore

/-- How often probing and discarding are due. -/
structure Intervals where
  monitor : Instant
  sweep : Instant
deriving DecidableEq, Repr

/-- The intervals as they are set. They are at least a second. -/
def Intervals.ofSettings (s : Settings) : Intervals where
  monitor := .ofSecs (max s.healthCheck.intervalSecs 1)
  sweep := .ofSecs (max s.pool.sweepIntervalSecs 1)

/-- A gateway at work. Requests are known by number; `madeId` identifies those that bring no
identification, `responses` has what was handed to their connections and when, and `watchers` counts
what was started in the background. -/
structure GatewayRun where
  now : Instant
  gateway : Gateway
  desk : Desk
  network : Network
  numbers : Keyed (String × Nat) Nat
  probeLines : Keyed Nat Nat
  intervals : Intervals
  madeId : String
  nextRequest : Nat
  flights : Keyed Nat Flight
  responses : Keyed Nat (Instant × Response)
  nextChore : Nat
  chores : Keyed Nat Chore
  watchers : Nat
  stopping : Bool

namespace GatewayRun

/-- A gateway that has just started. -/
def create (s : Settings) (gateway : Gateway) (network : Network) (madeId : String) :
    GatewayRun where
  now := 0
  gateway
  desk := .opened s.listener.maxInFlight
  network
  numbers := .empty
  probeLines := .empty
  intervals := .ofSettings s
  madeId
  nextRequest := 0
  flights := .empty
  responses := .empty
  nextChore := 0
  chores := .empty
  watchers := 0
  stopping := false

/-- Notes the response to a request, if its client is still there. -/
def respond (r : GatewayRun) (request : Nat) (incoming : Incoming) :
    Option Response × Desk → GatewayRun
  | (none, desk) => { r with desk }
  | (some answer, desk) =>
    { r with desk, responses := r.responses.set request (r.now, outgoing incoming answer) }

/-- The gateway is done with a request. -/
def finish (r : GatewayRun) (request visit : Nat) (incoming : Incoming) (c : Context)
    (answer : Response) : GatewayRun :=
  let (c, gateway) := r.gateway.deliver c answer
  let found := match c.slot.receive.1 with
    | .response answer => some answer
    | .empty | .closed => none
  { r with gateway }.respond request incoming (r.desk.finish visit found)

/-- The last attempt of a request is over. -/
def land (r : GatewayRun) (request : Nat) (f : Flight) (outcome : Except RequestError Response) :
    GatewayRun :=
  let (answer, gateway) := r.gateway.conclude f.passage r.now outcome
  { r with gateway, flights := r.flights.erase request }.finish request f.visit f.incoming
    f.passage.context answer

/-- Changes what a request waits for. -/
def enter (r : GatewayRun) (request : Nat) (f : Flight) (phase : Phase) : GatewayRun :=
  { r with flights := r.flights.set request { f with phase } }

/-- An attempt of a request is over. -/
def attemptOver (r : GatewayRun) (request : Nat) (f : Flight)
    (outcome : Except RequestError Response) : GatewayRun :=
  match r.gateway.pause? f.attempt outcome with
  | some pause => r.enter request f (.pausing (r.now + pause))
  | none => r.land request f outcome

/-- The backend of a request, with its pool. -/
def site (r : GatewayRun) (f : Flight) : Site :=
  let i := f.passage.chosen
  { host := i.host
    port := i.port
    pool := (r.gateway.pools.ensure i.authority).1
    network := r.network
    numbers := r.numbers }

/-- Puts back what belongs to a backend. -/
def withSite (r : GatewayRun) (s : Site) : GatewayRun :=
  { r with
    gateway := { r.gateway with pools := r.gateway.pools.put s.pool }
    network := s.network
    numbers := s.numbers }

/-- Changes the pool of a backend. -/
def onPool (r : GatewayRun) (authority : String) (f : Pool → Pool) : GatewayRun :=
  { r with gateway := { r.gateway with pools := r.gateway.pools.modify authority f } }

/-- Sends a request on a connection. -/
def send (r : GatewayRun) (request : Nat) (f : Flight) (l : Lent) : GatewayRun :=
  let i := f.passage.chosen
  match f.passage.outbound.target with
  | .error e => (r.onPool i.authority (·.leave l.ticket)).attemptOver request f (.error e)
  | .ok target =>
    let number := r.numbers.findD (i.authority, l.connection) 0
    let (course, network) := r.network.send i.port (received number f.passage.outbound target)
    let terms : Terms := ⟨r.gateway.timeouts, r.gateway.mostBytes, i.authority⟩
    let e := exchange terms course.schedule
    { r with network }.enter request f (.exchanging l e (r.now + e.took) course.leavesOpen)

/-- Goes on with an attempt of a request as far as its connection has come. -/
def onProgress (r : GatewayRun) (request : Nat) (f : Flight) : Progress × Site → GatewayRun
  | (.waiting c, s) => (r.withSite s).enter request f (.connecting c)
  | (.failed e, s) => (r.withSite s).attemptOver request f (.error e)
  | (.connected l, s) =>
    let r := r.withSite s
    let metrics := if l.reused then r.gateway.metrics
      else r.gateway.metrics.connection f.passage.chosen.authority
    { r with gateway := { r.gateway with metrics } }.send request f l

/-- Begins an attempt of a request. -/
def beginAttempt (r : GatewayRun) (request : Nat) (f : Flight) : GatewayRun :=
  let metrics := r.gateway.metrics.attempt f.passage.chosen.authority
  let r := { r with gateway := { r.gateway with metrics } }
  r.onProgress request f ((r.site f).start r.now)

/-- An exchange is over. -/
def exchangeOver (r : GatewayRun) (request : Nat) (f : Flight) (l : Lent) (e : Ending)
    (leavesOpen : Bool) : GatewayRun :=
  let r := r.onPool f.passage.chosen.authority fun p =>
    let p := if leavesOpen then p else p.noteClosed (· = l.connection)
    settle p l.ticket r.now e.outcome
  r.attemptOver request f e.outcome

/-- A request whose body was read. -/
def run (r : GatewayRun) (request visit : Nat) (incoming : Incoming) (body : ByteArray) :
    GatewayRun :=
  let (d, gateway) := r.gateway.dispatch r.now (incoming.context r.madeId body)
  let r := { r with gateway, desk := r.desk.start visit }
  match d with
  | .brokenDown => r.respond request incoming (r.desk.finish visit none)
  | .failed c e => r.finish request visit incoming c e.response
  | .notPermitted c answer => r.finish request visit incoming c answer
  | .forwarded p => r.beginAttempt request ⟨visit, incoming, p, 1, .pausing r.now⟩

/-- A request comes in. It is handled until it has to wait. -/
def begin (r : GatewayRun) (incoming : Incoming) : Nat × GatewayRun :=
  let incoming := incoming.identified r.madeId
  let request := r.nextRequest
  let r := { r with nextRequest := request + 1 }
  let handled := if !incoming.hasPath then
      r.respond request incoming (some notHandled, r.desk)
    else match r.desk.arrive with
      | (none, desk) => r.respond request incoming (some RequestError.busy.response, desk)
      | (some visit, desk) =>
        match incoming.bodyWithin r.gateway.mostBytes with
        | .error e => r.respond request incoming (desk.turnBack visit e)
        | .ok body => { r with desk }.run request visit incoming body
  (request, handled)

/-- Whether a request can go on. -/
def canGoOn (r : GatewayRun) (f : Flight) : Bool :=
  match f.phase with
  | .connecting c => c.ready (r.site f).pool r.now
  | .exchanging _ _ due _ | .pausing due => due ≤ r.now

/-- A request goes on. -/
def goOn (r : GatewayRun) (request : Nat) (f : Flight) : GatewayRun :=
  match f.phase with
  | .connecting c => r.onProgress request f ((r.site f).resume r.now c)
  | .exchanging l e _ leavesOpen => r.exchangeOver request f l e leavesOpen
  | .pausing _ => r.beginAttempt request { f with attempt := f.attempt + 1 }

/-- A step of a round of probes. -/
def stepCheckup (r : GatewayRun) (c : Checkup) : Checkup × GatewayRun :=
  match c.current, c.left with
  | some p, _ =>
    ({ c with current := none }, { r with gateway := r.gateway.noteProbe p.probe p.healthy })
  | none, [] => (c, r)
  | none, p :: left =>
    let s := r.gateway.healthCheck
    let (pending, line) := Line.probe ⟨r.network, r.probeLines⟩ p s.path r.now
      (.ofSecs s.timeoutSecs)
    (⟨left, some pending⟩, { r with network := line.network, probeLines := line.kept })

/-- A chore goes on; it may be over then. -/
def stepChore (r : GatewayRun) : Chore → Option Chore × GatewayRun
  | .monitor next none =>
    (some (.monitor (next + r.intervals.monitor) (some (.begin r.gateway.round))), r)
  | .monitor next (some round) =>
    let (round, r) := r.stepCheckup round
    (some (.monitor next (if round.isOver then none else some round)), r)
  | .checkup round =>
    let (round, r) := r.stepCheckup round
    (if round.isOver then none else some (.checkup round), r)
  | .sweeper next =>
    (some (.sweeper (next + r.intervals.sweep)),
      { r with gateway := (r.gateway.evict r.now).2 })

/-- Whether a chore can go on, or end. -/
def choreReady (r : GatewayRun) (c : Chore) : Bool :=
  (r.stopping && c.endsNow) || c.due r.now ≤ r.now

/-- A chore goes on, or ends. -/
def attend (r : GatewayRun) (n : Nat) (c : Chore) : GatewayRun :=
  if r.stopping && c.endsNow then { r with chores := r.chores.erase n }
  else
    match r.stepChore c with
    | (some c, r) => { r with chores := r.chores.set n c }
    | (none, r) => { r with chores := r.chores.erase n }

/-- The first request or chore that can go on does. -/
def proceed (r : GatewayRun) : Option GatewayRun :=
  match r.flights.entries.find? fun e => r.canGoOn e.2 with
  | some (request, f) => some (r.goOn request f)
  | none =>
    (r.chores.entries.find? fun e => r.choreReady e.2).map fun (n, c) => r.attend n c

/-- What moves while a gateway is at work. -/
def motion : Motion GatewayRun where
  now := now
  setNow t r := { r with now := t }
  proceed := proceed
  alarm r := earlier (earliest (r.flights.entries.map (·.2.due)))
    (earliest (r.chores.entries.map fun e => e.2.due r.now))

/-- The responses to requests, and when they were there. -/
def responsesTo (r : GatewayRun) (requests : List Nat) : List (Option (Instant × Response)) :=
  requests.map r.responses.find

/-- Serves requests that come in one after another at the same time. -/
def serveAll (r : GatewayRun) (incoming : List Incoming) :
    List (Option (Instant × Response)) × GatewayRun :=
  let (requests, r) := incoming.foldl (fun (acc : List Nat × GatewayRun) i =>
    let (request, r) := acc.2.begin i
    (acc.1 ++ [request], r)) ([], r)
  let r := motion.run (fun r => requests.all r.responses.contains) r
  (r.responsesTo requests, r)

/-- Serves a request. -/
def serve (r : GatewayRun) (incoming : Incoming) : Option Response × GatewayRun :=
  let (request, r) := r.begin incoming
  let r := motion.run (·.responses.contains request) r
  ((r.responses.find request).map (·.2), r)

/-- Starts a chore. -/
def startChore (r : GatewayRun) (c : Chore) : GatewayRun :=
  { r with nextChore := r.nextChore + 1, chores := r.chores.set r.nextChore c }

/-- One round of probes. -/
def checkHealth (r : GatewayRun) : GatewayRun :=
  let round := Checkup.begin r.gateway.round
  if round.isOver then r
  else
    let n := r.nextChore
    motion.run (fun r => !r.chores.contains n) (r.startChore (.checkup round))

/-- Starts what runs in the background: probing, where it is wanted, and discarding idle
connections. -/
def watch (r : GatewayRun) : GatewayRun :=
  let r := if r.gateway.healthCheck.enabled then r.startChore (.monitor r.now none) else r
  let r := r.startChore (.sweeper r.now)
  { r with watchers := r.watchers + 2 }

/-- Ends what runs in the background; tells how many there were. -/
def shutDown (r : GatewayRun) : Nat × GatewayRun :=
  let r := motion.run (fun r => r.chores.entries.isEmpty) { r with stopping := true }
  (r.watchers, { r with watchers := 0 })

/-- A backend closes all its connections. -/
def closeBackend (r : GatewayRun) (port : Nat) : GatewayRun :=
  let r := r.onPool (backendHost ++ ":" ++ toString port) (·.noteClosed fun _ => true)
  { r with
    probeLines := r.probeLines.erase port
    chores := ⟨r.chores.entries.map fun (n, c) => (n, match c with
      | .monitor next (some round) => .monitor next (some (round.cutOff port r.now))
      | .checkup round => .checkup (round.cutOff port r.now)
      | c => c)⟩ }

end GatewayRun

end HttpGateway.Simulation
