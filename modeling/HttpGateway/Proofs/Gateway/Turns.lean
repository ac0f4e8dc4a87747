/-
One turn of a request on its way to a backend.

* **Carried** — what an attempt may change while it lasts: connections, measurements, and what the
  network knows.
* **verdict?** — the outcome of the attempt of a request, if it is over with this turn.
* `goOn_turned` — all that a turn can come to: the request waits for something that comes later in
  an attempt, or its attempt is over with the verdict.
* `send_attempts` — on a connection, what an attempt comes to is the outcome of its exchange.
* `attemptOver_cases` — after an attempt there is a pause or the end of the request.
* `land_permitted`, `land_unpermitted` — the breaker learns of the end of a request that it
  permitted, and of no other.
* `gateway_goOn` — what a turn changes of the gateway.
* `find_flights_goOn`, `breakers_goOn_unpermitted` — a turn concerns no other request, and no
  breaker if none had to permit it.
-/
import HttpGateway.Proofs.Forward.Traffic
import HttpGateway.Simulation.GatewayRun

namespace HttpGateway.Simulation

open Forward Http Request

/-- How far an attempt has come in a phase. A pause lies before the attempt. -/
def Phase.stage : Phase → Nat
  | .pausing _ => 0
  | .connecting (.queued ..) => 1
  | .connecting (.hanging ..) => 2
  | .exchanging .. => 3

/-- The flight once its attempt is at work. After a pause that is the next attempt. -/
def Flight.atWork (f : Flight) : Flight :=
  match f.phase with
  | .pausing _ => { f with attempt := f.attempt + 1 }
  | _ => f

/-- The outcome of an attempt that gets no further. Whoever has a connection and a request that can
be sent gets further. -/
def Progress.verdict? (outbound : Outbound) : Progress → Option (Except RequestError Response)
  | .waiting _ => none
  | .failed e => some (.error e)
  | .connected _ =>
    match outbound.target with
    | .error e => some (.error e)
    | .ok _ => none

namespace GatewayRun

variable {r r₁ r₂ : GatewayRun} {request other : Nat} {f : Flight}

/-- The outcome of the attempt of a request, if it is over once the request has gone on. -/
def verdict? (r : GatewayRun) (f : Flight) : Option (Except RequestError Response) :=
  match f.phase with
  | .connecting c => ((r.site f).resume r.now c).1.verdict? f.passage.outbound
  | .exchanging _ e _ _ => some e.outcome
  | .pausing _ => ((r.site f).start r.now).1.verdict? f.passage.outbound

/-! ### What an attempt changes -/

/-- An attempt changes connections, measurements, the network and the numbers of its connections. -/
inductive Carried (r : GatewayRun) : GatewayRun → Prop
  | intro (pools metrics network numbers) :
      Carried r { r with gateway := { r.gateway with pools, metrics }, network, numbers }

theorem Carried.trans (h₁ : Carried r r₁) (h₂ : Carried r₁ r₂) : Carried r r₂ := by
  cases h₁
  cases h₂
  exact .intro ..

theorem carried_withSite (r : GatewayRun) (s : Site) : Carried r (r.withSite s) :=
  .intro (r.gateway.pools.put s.pool) r.gateway.metrics s.network s.numbers

theorem carried_onPool (r : GatewayRun) (authority : String) (change : Pool → Pool) :
    Carried r (r.onPool authority change) :=
  .intro (r.gateway.pools.modify authority change) r.gateway.metrics r.network r.numbers

theorem carried_metrics (r : GatewayRun) (metrics : Observe.Metrics) :
    Carried r { r with gateway := { r.gateway with metrics } } :=
  .intro r.gateway.pools metrics r.network r.numbers

theorem carried_network (r : GatewayRun) (network : Network) : Carried r { r with network } :=
  .intro r.gateway.pools r.gateway.metrics network r.numbers

/-- What a turn comes to, by the outcome of the attempt. Without one the request waits for something
that comes after `stage`. -/
inductive Turned (r : GatewayRun) (request : Nat) (f : Flight) (stage : Nat) :
    Option (Except RequestError Response) → GatewayRun → Prop
  | waits {r₁ phase} : Carried r r₁ → stage < phase.stage →
      Turned r request f stage none (r₁.enter request f phase)
  | ended {r₁ outcome} : Carried r r₁ →
      Turned r request f stage (some outcome) (r₁.attemptOver request f outcome)

theorem Turned.carried {stage : Nat} {verdict : Option (Except RequestError Response)}
    (h₁ : Carried r r₁) (h₂ : Turned r₁ request f stage verdict r₂) :
    Turned r request f stage verdict r₂ := by
  cases h₂ with
  | waits h hstage => exact .waits (h₁.trans h) hstage
  | ended h => exact .ended (h₁.trans h)

/-! ### One turn -/

theorem send_turned (r : GatewayRun) (request : Nat) (f : Flight) (l : Lent) {stage : Nat}
    (hstage : stage < 3) :
    Turned r request f stage ((Progress.connected l).verdict? f.passage.outbound)
      (r.send request f l) := by
  unfold send Progress.verdict?
  cases f.passage.outbound.target with
  | error e => exact .ended (carried_onPool r _ _)
  | ok target => exact .waits (carried_network r _) hstage

theorem onProgress_turned (r : GatewayRun) (request : Nat) (f : Flight) (p : Progress) (s : Site)
    {stage : Nat} (hstage : stage < 3)
    (hwaiting : ∀ c, p = .waiting c → stage < (Phase.connecting c).stage) :
    Turned r request f stage (p.verdict? f.passage.outbound) (r.onProgress request f (p, s)) := by
  cases p with
  | waiting c => exact .waits (carried_withSite r s) (hwaiting c rfl)
  | failed e => exact .ended (carried_withSite r s)
  | connected l =>
    exact .carried ((carried_withSite r s).trans (carried_metrics _ _))
      (send_turned _ request f l hstage)

/-- Whoever was admitted waits for nothing but the backend. -/
theorem supply_waiting {s : Site} {ticket : Nat} {now : Instant} {c : Connecting}
    (h : (s.supply ticket now).1 = .waiting c) : (Phase.connecting c).stage = 2 := by
  unfold Site.supply Site.connect at h
  split at h
  · simp at h
  · dsimp only at h
    split at h
    · simp at h
    · simp [Site.giveUp] at h
    · simp only [Progress.waiting.injEq] at h
      rw [← h]
      rfl

theorem start_waiting {s : Site} {now : Instant} {c : Connecting}
    (h : (s.start now).1 = .waiting c) : 0 < (Phase.connecting c).stage := by
  unfold Site.start at h
  split at h
  · rw [supply_waiting h]
    exact Nat.zero_lt_succ 1
  · simp only [Progress.waiting.injEq] at h
    rw [← h]
    exact Nat.zero_lt_one
  · simp at h

theorem resume_waiting {s : Site} {now : Instant} {c c' : Connecting}
    (h : (s.resume now c).1 = .waiting c') :
    (Phase.connecting c).stage < (Phase.connecting c').stage := by
  cases c with
  | hanging ticket deadline => simp [Site.resume, Site.giveUp] at h
  | queued ticket deadline =>
    simp only [Site.resume] at h
    split at h
    · rw [supply_waiting h]
      exact Nat.one_lt_two
    split at h
    · simp at h
    · rw [supply_waiting h]
      exact Nat.one_lt_two

theorem connecting_stage_lt (c : Connecting) : (Phase.connecting c).stage < 3 := by
  cases c <;> simp [Phase.stage]

/-- A turn of a request leads further in its attempt, or ends it. -/
theorem goOn_turned (r : GatewayRun) (request : Nat) (f : Flight) :
    Turned r request f.atWork f.phase.stage (r.verdict? f) (r.goOn request f) := by
  obtain ⟨visit, incoming, passage, attempt, phase⟩ := f
  cases phase with
  | connecting c =>
    exact onProgress_turned r request _ _ _ (connecting_stage_lt c) fun c' h => resume_waiting h
  | exchanging l e due leavesOpen => exact .ended (carried_onPool r _ _)
  | pausing due =>
    -- Another attempt begins with its first phase, and is measured.
    exact .carried (carried_metrics r _)
      (onProgress_turned _ request _ _ _ (Nat.zero_lt_succ 2) fun c h => start_waiting h)

/-! ### Exchanges -/

/-- A request that has got a connection: if it cannot be sent, the connection is settled at once
with that outcome. Otherwise an exchange begins that ends as an attempt does, by what happens on the
connection. -/
theorem send_attempts (r : GatewayRun) (request : Nat) (f : Flight) (l : Lent) :
    let i := f.passage.chosen
    let terms : Terms := ⟨r.gateway.timeouts, r.gateway.mostBytes, i.authority⟩
    (∃ e, (∀ s, attempt terms f.passage.outbound s = .error e) ∧
      r.send request f l
        = (r.onPool i.authority fun p => settle p l.ticket r.now (.error e)).attemptOver request f
            (.error e)) ∨
    ∃ s network ending leavesOpen, ending.outcome = attempt terms f.passage.outbound s ∧
      r.send request f l = { r with network }.enter request f
        (.exchanging l ending (r.now + ending.took) leavesOpen) := by
  intro i terms
  unfold send attempt
  cases f.passage.outbound.target with
  | error e => exact .inl ⟨e, fun _ => rfl, rfl⟩
  | ok target => exact .inr ⟨_, _, _, _, rfl, rfl⟩

/-! ### After an attempt -/

theorem attemptOver_cases (r : GatewayRun) (request : Nat) (f : Flight)
    (outcome : Except RequestError Response) :
    (∃ pause, r.gateway.pause? f.attempt outcome = some pause ∧
      r.attemptOver request f outcome = r.enter request f (.pausing (r.now + pause))) ∨
    (r.gateway.pause? f.attempt outcome = none ∧
      r.attemptOver request f outcome = r.land request f outcome) := by
  unfold attemptOver
  cases r.gateway.pause? f.attempt outcome with
  | some pause => exact .inl ⟨pause, rfl, rfl⟩
  | none => exact .inr ⟨rfl, rfl⟩

/-- A response changes the desk and the responses. -/
theorem respond_frame (r : GatewayRun) (request : Nat) (incoming : Incoming)
    (d : Option Response × Desk) :
    ∃ desk responses, r.respond request incoming d = { r with desk, responses } := by
  obtain ⟨_ | answer, desk⟩ := d
  · exact ⟨desk, r.responses, rfl⟩
  · exact ⟨desk, _, rfl⟩

/-- The end of a request changes the measurements, the desk and the responses. -/
theorem finish_frame (r : GatewayRun) (request visit : Nat) (incoming : Incoming) (c : Context)
    (answer : Response) : ∃ metrics desk responses,
    r.finish request visit incoming c answer
      = { r with gateway := { r.gateway with metrics }, desk, responses } := by
  obtain ⟨metrics, hdeliver⟩ : ∃ metrics, (r.gateway.deliver c answer).2
      = { r.gateway with metrics } := by
    unfold Gateway.deliver
    dsimp only
    split
    · exact ⟨_, rfl⟩
    · exact ⟨r.gateway.metrics, rfl⟩
  unfold finish
  dsimp only
  rw [hdeliver]
  obtain ⟨desk, responses, h⟩ :=
    respond_frame { r with gateway := { r.gateway with metrics } } request incoming _
  exact ⟨metrics, desk, responses, h⟩

/-- What the client gets for the outcome of a call that the breaker of its service permitted. -/
def answerTo (g : Gateway) (service : String) : Except RequestError Response → Response
  | .ok response => response.forClient
  | .error e => Fallbacks.answer g.fallbacks service ("Service call failed: " ++ e.message)

/-- The breaker that permitted a request learns of its outcome and of how long it took. -/
theorem land_permitted (r : GatewayRun) (request : Nat) {f : Flight} {permit : Breaker.Permit}
    (h : f.passage.permit = some permit) (outcome : Except RequestError Response) :
    r.land request f outcome
      = { r with
          gateway := r.gateway.withBreakers f.passage.chosen.serviceId
            (r.gateway.breakers.record permit r.now outcome.isOk (r.now - f.passage.began))
          flights := r.flights.erase request }.finish request f.visit f.incoming f.passage.context
            (answerTo r.gateway f.passage.chosen.serviceId outcome) := by
  unfold land Gateway.conclude
  rw [h]
  cases outcome <;> rfl

theorem land_unpermitted (r : GatewayRun) (request : Nat) {f : Flight}
    (h : f.passage.permit = none) (outcome : Except RequestError Response) :
    ∃ answer, r.land request f outcome
      = { r with flights := r.flights.erase request }.finish request f.visit f.incoming
          f.passage.context answer := by
  unfold land Gateway.conclude
  rw [h]
  cases outcome with
  | ok response => exact ⟨response.forClient, rfl⟩
  | error e => exact ⟨e.response, rfl⟩

/-! ### What a turn leaves alone -/

/-- What carrying on, waiting and landing keep, a turn keeps. -/
theorem goOn_keeps {P : GatewayRun → Prop} (r : GatewayRun) (request : Nat) (f : Flight)
    (hcarried : ∀ r₁, Carried r r₁ → P r₁)
    (henter : ∀ r₁ phase, P r₁ → P (r₁.enter request f.atWork phase))
    (hland : ∀ r₁ outcome, P r₁ → P (r₁.land request f.atWork outcome)) :
    P (r.goOn request f) := by
  have hturned := goOn_turned r request f
  generalize r.verdict? f = verdict, r.goOn request f = r' at hturned
  cases hturned with
  | waits h => exact henter _ _ (hcarried _ h)
  | @ended r₁ outcome h =>
    rcases attemptOver_cases r₁ request f.atWork outcome with ⟨pause, -, hover⟩ | ⟨-, hover⟩
    · rw [hover]
      exact henter _ _ (hcarried _ h)
    · rw [hover]
      exact hland _ _ (hcarried _ h)

/-- The end of a request changes breakers, measurements, the desk and the responses, and there is no
such request on its way any more. -/
theorem land_frame (r : GatewayRun) (request : Nat) (f : Flight)
    (outcome : Except RequestError Response) : ∃ breakers metrics desk responses,
    r.land request f outcome
      = { r with
          gateway := { r.gateway with breakers, metrics }
          desk, responses
          flights := r.flights.erase request } := by
  cases hpermit : f.passage.permit with
  | none =>
    obtain ⟨answer, hland⟩ := land_unpermitted r request hpermit outcome
    obtain ⟨metrics, desk, responses, hfinish⟩ := finish_frame
      { r with flights := r.flights.erase request } request f.visit f.incoming f.passage.context
      answer
    rw [hland, hfinish]
    exact ⟨r.gateway.breakers, metrics, desk, responses, rfl⟩
  | some permit =>
    rw [land_permitted r request hpermit outcome]
    obtain ⟨metrics, desk, responses, hfinish⟩ := finish_frame _ request f.visit f.incoming
      f.passage.context (answerTo r.gateway f.passage.chosen.serviceId outcome)
    rw [hfinish]
    exact ⟨_, metrics, desk, responses, rfl⟩

/-- What a turn changes of the gateway: connections, what breakers know, and measurements. -/
theorem gateway_goOn (r : GatewayRun) (request : Nat) (f : Flight) :
    ∃ pools breakers metrics,
      (r.goOn request f).gateway = { r.gateway with pools, breakers, metrics } := by
  refine goOn_keeps (P := fun r' => ∃ pools breakers metrics,
    r'.gateway = { r.gateway with pools, breakers, metrics }) r request f ?_ (fun _ _ h => h) ?_
  · rintro _ ⟨⟩
    exact ⟨_, _, _, rfl⟩
  · rintro r₁ outcome ⟨pools, _, _, h⟩
    obtain ⟨breakers, metrics, desk, responses, hland⟩ := land_frame r₁ request f.atWork outcome
    rw [hland]
    exact ⟨pools, breakers, metrics, by rw [h]⟩

/-- A turn takes no time and changes nothing that is set. -/
theorem goOn_frame (r : GatewayRun) (request : Nat) (f : Flight) :
    (r.goOn request f).now = r.now ∧
      (r.goOn request f).gateway.retries = r.gateway.retries := by
  refine goOn_keeps (P := fun r' => r'.now = r.now ∧ r'.gateway.retries = r.gateway.retries)
    r request f ?_ (fun _ _ h => h) ?_
  · rintro _ ⟨⟩
    exact ⟨rfl, rfl⟩
  · intro r₁ outcome h
    obtain ⟨breakers, metrics, desk, responses, hland⟩ := land_frame r₁ request f.atWork outcome
    rw [hland]
    exact h

/-- A turn of a request concerns no other one. -/
theorem find_flights_goOn (r : GatewayRun) (f : Flight) (h : request ≠ other) :
    (r.goOn request f).flights.find other = r.flights.find other := by
  refine goOn_keeps (P := fun r' => r'.flights.find other = r.flights.find other) r request f
    ?_ ?_ ?_
  · rintro _ ⟨⟩
    rfl
  · exact fun r₁ phase hfind => (Keyed.find_set_other _ h _).trans hfind
  · intro r₁ outcome hfind
    obtain ⟨breakers, metrics, desk, responses, hland⟩ := land_frame r₁ request f.atWork outcome
    rw [hland]
    exact (Keyed.find_erase_other _ h).trans hfind

theorem nodup_flights_goOn (f : Flight) (h : r.flights.keys.Nodup) :
    (r.goOn request f).flights.keys.Nodup := by
  refine goOn_keeps (P := fun r' => r'.flights.keys.Nodup) r request f ?_ ?_ ?_
  · rintro _ ⟨⟩
    exact h
  · exact fun r₁ phase hnodup => Keyed.nodup_set hnodup ..
  · intro r₁ outcome hnodup
    obtain ⟨breakers, metrics, desk, responses, hland⟩ := land_frame r₁ request f.atWork outcome
    rw [hland]
    exact Keyed.nodup_erase hnodup _

/-- No breaker learns of a request that it did not have to permit. -/
theorem breakers_goOn_unpermitted (r : GatewayRun) (request : Nat) {f : Flight}
    (h : f.passage.permit = none) :
    (r.goOn request f).gateway.breakers = r.gateway.breakers := by
  have hpermit : f.atWork.passage.permit = none := by
    rw [Flight.atWork]
    split <;> exact h
  -- Only the landing could tell a breaker, and without a permit it does not.
  refine goOn_keeps (P := fun r' => r'.gateway.breakers = r.gateway.breakers) r request f ?_ ?_ ?_
  · rintro _ ⟨⟩
    rfl
  · exact fun _ _ hsame => hsame
  · intro r₁ outcome hsame
    obtain ⟨answer, hland⟩ := land_unpermitted r₁ request hpermit outcome
    obtain ⟨metrics, desk, responses, hfinish⟩ := finish_frame
      { r₁ with flights := r₁.flights.erase request } request f.atWork.visit f.atWork.incoming
      f.atWork.passage.context answer
    rw [hland, hfinish]
    exact hsame

end GatewayRun

end HttpGateway.Simulation
