/-
What the breaker of a service learns of a request, and what the client does.

* **Answered** — the client of a request gets an answer, if it is still there.
* **Recorded** — the last turn of a request that was permitted: its outcome, how long all of it took
  and the answer.
* `recorded_once` — a call that is not permitted touches no backend and no breaker, and gets the
  fallback of the service. One that is permitted is recorded once, however many attempts there are,
  and this happens after a bounded number of turns.
-/
import HttpGateway.Proofs.Gateway.Dispatch
import HttpGateway.Proofs.Gateway.Journey

namespace HttpGateway.Simulation.GatewayRun

open Forward Http Request

variable {r r' : GatewayRun} {request visit : Nat} {incoming : Incoming} {body : ByteArray}
  {c : Context} {answer : Response}

/-! ### Answers -/

/-- A request gets an answer, if its client is still there. No filter may have given one. -/
def Answered (r : GatewayRun) (request visit : Nat) (incoming : Incoming) (c : Context)
    (answer : Response) (r' : GatewayRun) : Prop :=
  c.slot = .fresh → ∀ v, r.desk.visits.find visit = some v →
    r'.responses = if v.clientGone then r.responses
      else r.responses.set request (r.now, outgoing incoming answer)

theorem answered_finish (r : GatewayRun) (request visit : Nat) (incoming : Incoming) (c : Context)
    (answer : Response) :
    Answered r request visit incoming c answer (r.finish request visit incoming c answer) := by
  intro hslot v hv
  have hreceive : (r.gateway.deliver c answer).1.slot.receive.1 = .response answer := by
    simp [Gateway.deliver, Context.respond, ReplySlot.respond, ReplySlot.receive, hslot,
      ReplySlot.fresh]
  unfold finish Desk.finish Desk.close
  simp only [hreceive, hv, Option.getD_some]
  cases v.clientGone <;> rfl

/-- That the body of a request was read does not concern its client. -/
theorem find_visits_start {desk : Desk} {v : Visit} (h : desk.visits.find visit = some v) :
    (desk.start visit).visits.find visit = some { v with reading := false } := by
  rw [Desk.start, Keyed.update, h]
  exact Keyed.find_set_self ..

theorem Answered.of_start {gateway : Gateway}
    (h : Answered { r with gateway, desk := r.desk.start visit } request visit incoming c answer
      r') : Answered r request visit incoming c answer r' :=
  fun hslot v hv => h hslot { v with reading := false } (find_visits_start hv)

theorem Answered.congr {s : GatewayRun} (h : Answered s request visit incoming c answer r')
    (hnow : s.now = r.now) (hdesk : s.desk = r.desk) (hresponses : s.responses = r.responses) :
    Answered r request visit incoming c answer r' := by
  rw [Answered, hnow, hdesk, hresponses] at h
  exact h

/-! ### The last turn -/

/-- The last turn of a request to a service, for which its breaker gave a permit: the breaker learns
of the outcome, and of the time of all attempts and pauses together. The outcome is the one to which
the attempts lead, and the client gets it, or the fallback of the service. -/
structure Recorded (request : Nat) (f₀ : Flight) (permit : Breaker.Permit) (retries : Retry.Policy)
    (turns : List Turn) (last : Turn) (outcome : Except RequestError Response) : Prop where
  breakers : (last.after request).gateway.breakers
    = last.run.gateway.breakers.record permit last.run.now outcome.isOk
        (spent false turns + spent true turns)
  verdict : last.verdict? = some outcome
  final : ∀ work : Nat → Instant × Except RequestError Response,
    (∀ k o, (outcomes turns)[k]? = some o → (work (k + 1)).2 = o) → ∀ now,
      (retries.run work now).outcome = outcome ∧
        (retries.run work now).attempts.length = (outcomes turns).length
  answered : Answered last.run request f₀.visit f₀.incoming f₀.passage.context
    (answerTo last.run.gateway f₀.passage.chosen.serviceId outcome) (last.after request)

/-- What the client gets depends on the fallbacks and the outcome alone. -/
theorem answerTo_congr {g g' : Gateway} (h : g'.fallbacks = g.fallbacks) (service : String)
    (outcome : Except RequestError Response) :
    answerTo g' service outcome = answerTo g service outcome := by
  cases outcome with
  | ok response => rfl
  | error e => rw [answerTo, answerTo, h]

/-- What is concluded is recorded. -/
theorem Concluded.recorded {r₀ : GatewayRun} {f₀ : Flight} {permit : Breaker.Permit}
    {earlier : List Turn} {last : Turn} {outcome : Except RequestError Response}
    (h : Concluded request r₀ f₀ earlier last outcome) (hpermit : f₀.passage.permit = some permit)
    (hbegan : f₀.passage.began = r₀.now) {r' : GatewayRun}
    (hjourney : Journey request r₀ f₀ (last :: earlier) r') :
    Recorded request f₀ permit r₀.gateway.retries (last :: earlier) last outcome := by
  obtain ⟨hvisit, hincoming, hpassage⟩ := h.same
  obtain ⟨hvisit', hincoming', hpassage'⟩ := atWork_same last.flight
  obtain ⟨s, hcarried, hland⟩ := h.landed
  have hpassage'' := hpassage'.trans hpassage
  rw [land_permitted s request ((congrArg Passage.permit hpassage'').trans hpermit) outcome,
    hpassage'', hvisit', hvisit, hincoming', hincoming, hbegan] at hland
  -- What carries the last attempt changes nothing of what is recorded and answered.
  have hfallbacks : s.gateway.fallbacks = last.run.gateway.fallbacks := by
    cases hcarried
    rfl
  obtain ⟨hnow, hdesk, hresponses, hbreakers⟩ : s.now = last.run.now ∧ s.desk = last.run.desk ∧
      s.responses = last.run.responses ∧ s.gateway.breakers = last.run.gateway.breakers := by
    cases hcarried
    exact ⟨rfl, rfl, rfl, rfl⟩
  obtain ⟨last', earlier', hturns, -, hspent⟩ := hjourney.spent_add_spent
  obtain ⟨rfl, rfl⟩ := List.cons.inj hturns
  have hduration : s.now - r₀.now
      = spent false (last :: earlier) + spent true (last :: earlier) := by
    rw [hnow, ← hspent]
    exact Nat.add_sub_cancel_left ..
  refine ⟨?_, h.verdict, fun work hwork now => ?_, ?_⟩
  · obtain ⟨metrics, desk, responses, hfinish⟩ := finish_frame _ request f₀.visit f₀.incoming
      f₀.passage.context _
    rw [hland, hfinish, ← hduration, ← hnow, ← hbreakers]
    rfl
  · -- The verdicts of the turns are the outcomes of a run of the retries.
    have houtcomes : outcomes (last :: earlier) = outcomes earlier ++ [outcome] := by
      rw [outcomes_cons, h.verdict]
      rfl
    rw [houtcomes] at hwork ⊢
    obtain ⟨hlast, hattempts⟩ := h.continues.run h.final hwork now
    refine ⟨hlast, ?_⟩
    rw [← List.length_map, hattempts, List.length_range', List.length_append,
      List.length_singleton]
  · rw [hland, ← answerTo_congr hfallbacks]
    exact (answered_finish _ request f₀.visit f₀.incoming f₀.passage.context _).congr hnow hdesk
      hresponses

/-! ### Rejected or recorded -/

/-- Whoever does not wait for a permit can go on when the time has come. -/
theorem canGoOn_of_due {f : Flight} (h : f.due ≤ r.now) : r.canGoOn f = true := by
  obtain ⟨visit, incoming, passage, attempt, phase⟩ := f
  cases phase with
  | connecting c => exact Bool.or_eq_true_iff.mpr (.inl (decide_eq_true h))
  | exchanging l e due leavesOpen => exact decide_eq_true h
  | pausing due => exact decide_eq_true h

/-- **A permitted request is recorded once.** A request comes to the instance of a resilient route.
If the breaker of its service rejects the call, no backend, no connection and no breaker is touched,
and the client gets the fallback of the service. Otherwise the request goes on its journey, and
whatever others do meanwhile, it takes no more than so many turns, each when it is due at the
latest. As long as it is under way, no breaker has learnt of any of its turns; once it is not, the
breaker has learnt of the last one. -/
theorem recorded_once {route : Route} {i : Route.Instance} {outbound : Outbound} {g : Gateway}
    (h : r.gateway.Addressed r.now (incoming.context r.madeId body) route i c outbound g)
    (hresilient : route.resilient = true) :
    let service := i.serviceId
    let asked := r.gateway.breakers.acquire service r.now
    let r' := r.run request visit incoming body
    (∀ reason, asked.1 = .error reason →
      Answered r request visit incoming c
          (Fallbacks.answer r.gateway.fallbacks service (RequestError.breakerOpen service).message)
          r' ∧
        r'.gateway.breakers = r.gateway.breakers ∧ r'.gateway.pools = r.gateway.pools ∧
        r'.network = r.network ∧ r'.flights = r.flights) ∧
    ∀ permit, asked.1 = .ok permit →
      let r₀ : GatewayRun :=
        { r with gateway := g.withBreakers service asked.2, desk := r.desk.start visit }
      let f₀ : Flight := ⟨visit, incoming,
        ⟨{ c with forwarded := true }, i, outbound, some permit, r.now⟩, 0, .pausing r.now⟩
      r' = r₀.goOn request f₀ ∧
      ∀ turns s, Journey request r₀ f₀ turns s →
        turns.length ≤ 4 * (r.gateway.retries.maxRetries + 1) ∧
        ((∃ f, s.flights.find request = some f ∧ (f.due ≤ s.now → s.canGoOn f = true) ∧
            ∀ t ∈ turns, t.Quiet request) ∨
          (s.flights.find request = none ∧ ∃ last earlier outcome, turns = last :: earlier ∧
            (∀ t ∈ earlier, t.Quiet request) ∧
            Recorded request f₀ permit r.gateway.retries turns last outcome)) := by
  intro service asked r'
  have hdispatch := h.dispatch
  obtain ⟨memory, balancers, rfl⟩ := h.gateway
  rw [hresilient] at hdispatch
  rcases Gateway.permit_cases { r.gateway with memory, balancers } r.now c true i outbound with
    ⟨hplain, -⟩ | ⟨-, reason, hacquire, hpermit⟩ | ⟨-, permit, breakers, hacquire, hpermit⟩
  · exact absurd hplain (by simp)
  · -- The breaker rejects the call.
    have hasked : asked = (.error reason, r.gateway.breakers) := hacquire
    refine ⟨fun _ _ => ?_, fun permit hok => by simp [hasked] at hok⟩
    rw [show r' = _ from run_notPermitted (hdispatch.trans hpermit)]
    refine ⟨(answered_finish _ request visit incoming c _).of_start, ?_⟩
    obtain ⟨metrics, desk, responses, hfinish⟩ := finish_frame _ request visit incoming c _
    rw [hfinish]
    exact ⟨rfl, rfl, rfl, rfl⟩
  · -- It permits the call, and the first turn is the first of the journey.
    have hasked : asked = (.ok permit, breakers) := hacquire
    refine ⟨fun reason herror => by simp [hasked] at herror, fun permit' hok => ?_⟩
    obtain rfl : permit = permit' := by simpa [hasked] using hok
    rw [hasked]
    intro r₀ f₀
    refine ⟨run_forwarded (hdispatch.trans hpermit), fun turns s hjourney => ?_⟩
    rcases hjourney.underWay_or_concluded rfl rfl with
      ⟨f, hfind, hunder⟩ | ⟨hgone, last, earlier, outcome, rfl, hconcluded⟩
    · have hretries : (outcomes turns).length ≤ r.gateway.retries.maxRetries :=
        hunder.continues.length_le
      have hbound := hunder.bound
      have hstage := stage_le f.phase
      exact ⟨by omega, .inl ⟨f, hfind, canGoOn_of_due, hunder.quiet⟩⟩
    · have hretries : (outcomes earlier).length ≤ r.gateway.retries.maxRetries :=
        hconcluded.continues.length_le
      have hbound := hconcluded.bound
      refine ⟨?_, .inr ⟨hgone, last, earlier, outcome, rfl, hconcluded.quiet,
        hconcluded.recorded rfl rfl hjourney⟩⟩
      rw [List.length_cons]
      omega

/-- Nobody listens at the only instance of a route. The request is tried twice, with a pause of a
millisecond, and its breaker learns of one failure. -/
theorem recorded_once_two_attempts :
    let i : Route.Instance := ⟨"orders", ⟨"http".toList, [], [],
      some (.address (.v4 [127, 0, 0, 1])), some 81, "/".toList, none, none⟩, "127.0.0.1", 81, 1,
      false, .given true⟩
    let gateway : Gateway :=
      { filters := .empty, globalFilters := [], timeouts := ⟨1, 1, 1, 1⟩
        retries := ⟨1, 1, 1, fun _ => 0⟩, mostBytes := 0, resilientByDefault := true
        healthCheck := {}, routes := [⟨"orders", "/", .roundRobin, none, [], true, [i], 0⟩]
        installed := 1, balancers := .empty
        breakers := .empty ⟨.finite 50, .finite 50, 1000000, 1000000, 1, 1, 1⟩
        fallbacks := .empty, pools := ⟨⟨1, 0, 1, .fail, 1, 1⟩, .empty⟩, memory := {}
        metrics := .empty }
    let r := { GatewayRun.create default gateway ⟨true, .empty⟩ "7" with
      desk := (Desk.opened 1).arrive.2 }
    let incoming : Incoming :=
      ⟨"GET", ⟨none, none, "/".toList, none⟩, .empty, .ok emptyBody, ⟨.v4 [127, 0, 0, 1], 9⟩⟩
    ∃ route i c outbound g permit r₀ f₀ turns s last outcome,
      r.gateway.Addressed r.now (incoming.context r.madeId emptyBody) route i c outbound g ∧
      route.resilient = true ∧ r.run 0 0 incoming emptyBody = r₀.goOn 0 f₀ ∧
      Journey 0 r₀ f₀ turns s ∧ turns.length = 2 ∧
      Recorded 0 f₀ permit r.gateway.retries turns last outcome := by
  intro i gateway r incoming
  have hforwarded : (match (r.gateway.dispatch r.now (incoming.context r.madeId emptyBody)).1 with
      | .forwarded p => p.permit.isSome
      | _ => false) = true := by decide +kernel
  let s := { r.run 0 0 incoming emptyBody with now := 1000 }
  have hready : (s.flights.find 0).map s.canGoOn = some true := by decide +kernel
  have hgone : (s.flights.find 0).map (fun f => ((s.goOn 0 f).flights.find 0).isNone)
      = some true := by decide +kernel
  obtain ⟨f, hfind, hf⟩ := Option.map_eq_some_iff.mp hready
  rw [hfind] at hgone
  cases hd : (r.gateway.dispatch r.now (incoming.context r.madeId emptyBody)).1 with
  | forwarded p =>
    rw [hd] at hforwarded
    obtain ⟨permit, hp⟩ := Option.isSome_iff_exists.mp hforwarded
    obtain ⟨route, j, c, outbound, g, haddressed, hresilient, hacquire⟩ :=
      Gateway.addressed_of_forwarded hd hp
    obtain ⟨hrun, hjourneys⟩ :=
      (@recorded_once r 0 0 incoming emptyBody c route j outbound g haddressed hresilient).2 permit
        hacquire
    have hpause : Interlude 0 (r.run 0 0 incoming emptyBody) s :=
      ⟨rfl, by decide +kernel, rfl⟩
    rw [hrun] at hpause
    have hjourney := (Journey.first.others hpause).turn hfind hf
    rcases (hjourneys _ _ hjourney).2 with
      ⟨f', hfind', -⟩ | ⟨-, last, earlier, outcome, hturns, -, hrecorded⟩
    · simp [hfind'] at hgone
    · exact ⟨route, j, c, outbound, g, permit, _, _, _, _, last, outcome, haddressed, hresilient,
        hrun, hjourney, rfl, hrecorded⟩
  | _ => simp [hd] at hforwarded

end HttpGateway.Simulation.GatewayRun
