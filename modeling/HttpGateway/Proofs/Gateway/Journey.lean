/-
All that becomes of a request on its way to a backend, whatever else goes on.

* **Turn** — a request at a moment at which it goes on.
* **Journey** — the turns of a request, the latest one first, with all that others do in between.
* **UnderWay**, **Concluded** — what is known as long as there is no final outcome, and what once
  there is.
* **Journey.underWay_or_concluded** — each journey is in one of these two states, by induction on
  its turns.
* `Journey.spent_add_spent` — the time of a journey is that of its attempts and of its pauses.
* `Motion.runFor_keeps` — what every step keeps, and every wait, is kept by all that goes on.
* `Journey.runFor` — whatever a gateway at work does, a request that is on a journey stays on it.
-/
import HttpGateway.Proofs.Gateway.Dispatch
import HttpGateway.Proofs.Retry.Run

namespace HttpGateway.Simulation

open Forward Http Request

/-- A request at a moment at which it goes on. -/
structure Turn where
  run : GatewayRun
  flight : Flight

namespace Turn

/-- What the turn leads to. -/
def after (t : Turn) (request : Nat) : GatewayRun := t.run.goOn request t.flight

/-- The outcome of the attempt, if it is over with this turn. -/
def verdict? (t : Turn) : Option (Except RequestError Response) := t.run.verdict? t.flight

/-- No breaker learns of the turn, and nobody gets a response. -/
structure Quiet (t : Turn) (request : Nat) : Prop where
  breakers : (t.after request).gateway.breakers = t.run.gateway.breakers
  responses : (t.after request).responses = t.run.responses

end Turn

/-- Whether a request makes a pause. -/
def Phase.isPause : Phase → Bool
  | .pausing _ => true
  | _ => false

/-- What every step keeps, and every wait, is kept however long all goes on. -/
theorem Motion.runFor_keeps {σ : Type} {m : Motion σ} {P : σ → Prop}
    (hproceed : ∀ s s', P s → m.proceed s = some s' → P s')
    (hwait : ∀ s t, P s → m.now s ≤ t → P (m.setNow t s)) (horizon : Option Instant)
    (reached : σ → Bool) (fuel : Nat) {s : σ} (h : P s) :
    P (m.runFor horizon reached fuel s) := by
  induction fuel generalizing s with
  | zero => exact h
  | succ fuel ih =>
    unfold Motion.runFor
    split
    · exact h
    split
    · next s' hs' => exact ih (hproceed s s' h hs')
    split
    · exact ih (hwait s _ h (Nat.le_max_right ..))
    · exact h

namespace GatewayRun

variable {request : Nat} {r r' r₀ : GatewayRun} {f f₀ : Flight} {turns earlier : List Turn}
  {last : Turn} {outcome : Except RequestError Response}

/-- The outcomes of the attempts that are over, those of the first ones first. -/
def outcomes (turns : List Turn) : List (Except RequestError Response) :=
  turns.reverse.filterMap Turn.verdict?

theorem outcomes_cons (t : Turn) (turns : List Turn) :
    outcomes (t :: turns) = outcomes turns ++ t.verdict?.toList := by
  rw [outcomes, List.reverse_cons, List.filterMap_append]
  cases h : t.verdict? <;> simp [outcomes, h]

/-- The time that a request has waited in pauses, or apart from them, up to its latest turn. -/
def spent (pause : Bool) : List Turn → Instant
  | later :: earlier :: rest =>
    (if later.flight.phase.isPause = pause then later.run.now - earlier.run.now else 0)
      + spent pause (earlier :: rest)
  | _ => 0

/-! ### Journeys -/

/-- What others do while a request waits: to it, nothing but that time passes. -/
structure Interlude (request : Nat) (r r' : GatewayRun) : Prop where
  flight : r'.flights.find request = r.flights.find request
  now : r.now ≤ r'.now
  retries : r'.gateway.retries = r.gateway.retries

/-- The turns of a request from its first one on, the latest one first, and what they have led
to. -/
inductive Journey (request : Nat) (r₀ : GatewayRun) (f₀ : Flight) : List Turn → GatewayRun → Prop
  | first : Journey request r₀ f₀ [⟨r₀, f₀⟩] (r₀.goOn request f₀)
  | turn {turns : List Turn} {r : GatewayRun} {f : Flight} : Journey request r₀ f₀ turns r →
      r.flights.find request = some f → r.canGoOn f = true →
      Journey request r₀ f₀ (⟨r, f⟩ :: turns) (r.goOn request f)
  | others {turns : List Turn} {r r' : GatewayRun} : Journey request r₀ f₀ turns r →
      Interlude request r r' → Journey request r₀ f₀ turns r'

/-- A request without a final outcome: all attempts so far were followed by another one, and it has
taken no more turns than these attempts have phases. -/
structure UnderWay (request : Nat) (r₀ : GatewayRun) (f₀ : Flight) (turns : List Turn)
    (r : GatewayRun) (f : Flight) : Prop where
  same : f.visit = f₀.visit ∧ f.incoming = f₀.incoming ∧ f.passage = f₀.passage
  attempt : f.atWork.attempt = (outcomes turns).length + 1
  bound : turns.length ≤ 4 * (outcomes turns).length + f.phase.stage
  quiet : ∀ t ∈ turns, t.Quiet request
  continues : r₀.gateway.retries.Continues (outcomes turns)
  retries : r.gateway.retries = r₀.gateway.retries

/-- A request whose latest turn has ended its last attempt. -/
structure Concluded (request : Nat) (r₀ : GatewayRun) (f₀ : Flight) (earlier : List Turn)
    (last : Turn) (outcome : Except RequestError Response) : Prop where
  same : last.flight.visit = f₀.visit ∧ last.flight.incoming = f₀.incoming ∧
    last.flight.passage = f₀.passage
  bound : earlier.length < 4 * ((outcomes earlier).length + 1)
  quiet : ∀ t ∈ earlier, t.Quiet request
  continues : r₀.gateway.retries.Continues (outcomes earlier)
  verdict : last.verdict? = some outcome
  final : r₀.gateway.retries.pause? ((outcomes earlier).length + 1) outcome = none
  landed : ∃ s, Carried last.run s ∧
    last.after request = s.land request last.flight.atWork outcome

theorem atWork_same (f : Flight) :
    f.atWork.visit = f.visit ∧ f.atWork.incoming = f.incoming ∧ f.atWork.passage = f.passage := by
  rw [Flight.atWork]
  split <;> exact ⟨rfl, rfl, rfl⟩

theorem stage_le (phase : Phase) : phase.stage ≤ 3 := by
  cases phase with
  | connecting c => exact Nat.le_of_lt (connecting_stage_lt c)
  | exchanging => exact Nat.le_refl 3
  | pausing => exact Nat.zero_le 3

/-- Whoever waits for something that comes after another thing does not make a pause. -/
theorem atWork_of_stage {f : Flight} {stage : Nat} (h : stage < f.phase.stage) : f.atWork = f := by
  rw [Flight.atWork]
  split
  · next due hphase => simp [hphase, Phase.stage] at h
  · rfl

/-- A turn that carries an attempt on, or begins a pause, is quiet. -/
theorem quiet_of_enter {t : Turn} {s : GatewayRun} {f : Flight} {phase : Phase}
    (h : Carried t.run s) (ht : t.after request = s.enter request f phase) : t.Quiet request := by
  constructor
  · rw [ht]
    cases h
    rfl
  · rw [ht]
    cases h
    rfl

/-- One more turn of a request: it is still under way, or it is concluded. -/
theorem UnderWay.goOn (h : UnderWay request r₀ f₀ turns r f) :
    (∃ f', (r.goOn request f).flights.find request = some f' ∧
      UnderWay request r₀ f₀ (⟨r, f⟩ :: turns) (r.goOn request f) f') ∨
    ((r.goOn request f).flights.find request = none ∧
      ∃ outcome, Concluded request r₀ f₀ turns ⟨r, f⟩ outcome) := by
  obtain ⟨hvisit, hincoming, hpassage⟩ := h.same
  obtain ⟨hvisit', hincoming', hpassage'⟩ := atWork_same f
  have hturned := goOn_turned r request f
  have hstage := stage_le f.phase
  have hbound := h.bound
  have hattempt := h.attempt
  generalize hv : r.verdict? f = verdict, hr' : r.goOn request f = r' at hturned
  have houtcomes : outcomes (⟨r, f⟩ :: turns) = outcomes turns ++ verdict.toList := by
    rw [outcomes_cons, ← hv]
    rfl
  cases hturned with
  | @waits r₁ phase hcarried hlater =>
    -- The attempt goes on in a later phase, which makes room for the turn in the bound.
    rw [Option.toList_none, List.append_nil] at houtcomes
    have hquiet := quiet_of_enter (t := ⟨r, f⟩) hcarried hr'
    refine .inl ⟨{ f.atWork with phase }, Keyed.find_set_self .., ?_⟩
    refine ⟨⟨hvisit'.trans hvisit, hincoming'.trans hincoming, hpassage'.trans hpassage⟩, ?_, ?_,
      List.forall_mem_cons.mpr ⟨hquiet, h.quiet⟩, ?_, ?_⟩
    · rw [houtcomes, @atWork_of_stage { f.atWork with phase } f.phase.stage hlater]
      exact hattempt
    · rw [houtcomes, List.length_cons]
      show turns.length + 1 ≤ 4 * (outcomes turns).length + phase.stage
      omega
    · rw [houtcomes]
      exact h.continues
    · cases hcarried
      exact h.retries
  | @ended r₁ outcome hcarried =>
    have hretries : r₁.gateway.retries = r₀.gateway.retries := by
      cases hcarried
      exact h.retries
    rcases attemptOver_cases r₁ request f.atWork outcome with ⟨pause, hpause, hover⟩ | ⟨hend, hover⟩
    · -- A pause: the attempt is one more of those that are followed by another one.
      rw [Gateway.pause?, hretries, hattempt] at hpause
      have hquiet := quiet_of_enter (t := ⟨r, f⟩) hcarried (hr'.trans hover)
      rw [hover]
      refine .inl ⟨{ f.atWork with phase := .pausing (r₁.now + pause) }, Keyed.find_set_self .., ?_⟩
      refine ⟨⟨hvisit'.trans hvisit, hincoming'.trans hincoming, hpassage'.trans hpassage⟩, ?_, ?_,
        List.forall_mem_cons.mpr ⟨hquiet, h.quiet⟩, ?_, hretries⟩
      · show f.atWork.attempt + 1 = _
        rw [houtcomes, hattempt, Option.toList_some, List.length_append, List.length_singleton]
      · rw [houtcomes, Option.toList_some, List.length_append, List.length_singleton,
          List.length_cons]
        show turns.length + 1 ≤ 4 * ((outcomes turns).length + 1) + 0
        omega
      · rw [houtcomes]
        exact h.continues.append (Option.isSome_iff_exists.mpr ⟨pause, hpause⟩)
    · -- The last attempt: the flight is gone, and with it any further turn.
      rw [Gateway.pause?, hretries, hattempt] at hend
      rw [hover]
      refine .inr ⟨?_, outcome, h.same, by omega, h.quiet, h.continues, hv, hend, r₁, hcarried,
        hr'.trans hover⟩
      obtain ⟨breakers, metrics, desk, responses, hland⟩ := land_frame r₁ request f.atWork outcome
      rw [hland]
      exact Keyed.find_erase_self ..

/-- The request before its first turn. -/
theorem underWay_start (h : f₀.phase.stage = 0) (hattempt : f₀.attempt = 0) :
    UnderWay request r₀ f₀ [] r₀ f₀ := by
  refine ⟨⟨rfl, rfl, rfl⟩, ?_, Nat.zero_le _, by simp, Retry.Policy.continues_nil, rfl⟩
  rw [Flight.atWork]
  split
  · exact congrArg (· + 1) hattempt
  · next hphase =>
    obtain ⟨visit, incoming, passage, attempt, phase⟩ := f₀
    cases phase with
    | connecting c => cases c <;> simp [Phase.stage] at h
    | exchanging => simp [Phase.stage] at h
    | pausing due => exact absurd rfl (hphase due)

/-- **A request is under way or concluded.** It has no other flight afterwards, and no turn. -/
theorem Journey.underWay_or_concluded (h : Journey request r₀ f₀ turns r)
    (hstage : f₀.phase.stage = 0) (hattempt : f₀.attempt = 0) :
    (∃ f, r.flights.find request = some f ∧ UnderWay request r₀ f₀ turns r f) ∨
    (r.flights.find request = none ∧ ∃ last earlier outcome, turns = last :: earlier ∧
      Concluded request r₀ f₀ earlier last outcome) := by
  induction h with
  | first =>
    have hstart : UnderWay request r₀ f₀ [] r₀ f₀ := underWay_start hstage hattempt
    rcases hstart.goOn with h | ⟨hgone, outcome, h⟩
    · exact .inl h
    · exact .inr ⟨hgone, _, _, outcome, rfl, h⟩
  | @turn turns r f _ hfind _ ih =>
    -- Only a request that is still under way has a flight to go on with.
    rcases ih with ⟨f', hfind', h⟩ | ⟨hgone, -⟩
    · obtain rfl : f = f' := Option.some.inj (hfind.symm.trans hfind')
      rcases h.goOn with h | ⟨hgone, outcome, h⟩
      · exact .inl h
      · exact .inr ⟨hgone, _, _, outcome, rfl, h⟩
    · simp [hfind] at hgone
  | others _ hinterlude ih =>
    rcases ih with ⟨f, hfind, h⟩ | ⟨hgone, h⟩
    · exact .inl ⟨f, hinterlude.flight.trans hfind, h.same, h.attempt, h.bound, h.quiet,
        h.continues, hinterlude.retries.trans h.retries⟩
    · exact .inr ⟨hinterlude.flight.trans hgone, h⟩

/-- The time from the first turn to the latest one is spent in pauses and in attempts. -/
theorem Journey.spent_add_spent (h : Journey request r₀ f₀ turns r) :
    ∃ last earlier, turns = last :: earlier ∧ last.run.now ≤ r.now ∧
      r₀.now + (spent false turns + spent true turns) = last.run.now := by
  induction h with
  | first => exact ⟨_, _, rfl, Nat.le_of_eq (goOn_frame r₀ request f₀).1.symm, rfl⟩
  | @turn turns r f _ _ _ ih =>
    obtain ⟨last, earlier, rfl, hle, hsum⟩ := ih
    refine ⟨⟨r, f⟩, last :: earlier, rfl, Nat.le_of_eq (goOn_frame r request f).1.symm, ?_⟩
    -- The time since the turn before is added on one side, and nothing on the other.
    have hgap : ∀ start a b before now : Nat, start + (a + b) = before → before ≤ now →
        start + (now - before + a + (0 + b)) = now ∧
          start + (0 + a + (now - before + b)) = now := by
      omega
    rw [spent, spent]
    cases f.phase.isPause
    · exact (hgap _ _ _ _ _ hsum hle).1
    · exact (hgap _ _ _ _ _ hsum hle).2
  | others _ hinterlude ih =>
    obtain ⟨last, earlier, rfl, hle, hsum⟩ := ih
    exact ⟨last, earlier, rfl, Nat.le_trans hle hinterlude.now, hsum⟩

/-! ### What others do -/

theorem interlude_goOn {other : Nat} (r : GatewayRun) (f : Flight) (h : other ≠ request) :
    Interlude request r (r.goOn other f) where
  flight := find_flights_goOn r f h
  now := Nat.le_of_eq (goOn_frame r other f).1.symm
  retries := (goOn_frame r other f).2

/-- The health of one instance at most has changed. -/
def HealthNoted (before after : Route.Table) : Prop :=
  after = before ∨ ∃ route place f, after = before.modify route (·.modifyHealth place f)

/-- Whatever a change leaves alone is the same everywhere once one element has changed. -/
theorem map_modify_of_eq {α β : Type} {h : α → β} {f : α → α} (hf : ∀ a, h (f a) = h a)
    (xs : List α) (k : Nat) : (xs.modify k f).map h = xs.map h := by
  apply List.ext_getElem?
  intro i
  rw [List.getElem?_map, List.getElem?_map, List.getElem?_modify]
  cases xs[i]? with
  | none => rfl
  | some a =>
    simp only [Option.map_eq_map, Option.map_some]
    split
    · exact congrArg some (hf a)
    · rfl

/-- What the health of instances does not count for is the same for all routes. -/
theorem map_of_healthNoted {α : Type} {h : Route → α} {before after : Route.Table}
    (hh : ∀ r place f, h (Route.modifyHealth r place f) = h r) (hnoted : HealthNoted before after) :
    after.map h = before.map h := by
  rcases hnoted with rfl | ⟨route, place, f, rfl⟩
  · rfl
  · exact map_modify_of_eq (fun r => hh r place f) before route

/-- What the outcome of a probe changes. -/
theorem noteProbe_frame (g : Gateway) (p : Health.Probe) (healthy : Bool) :
    ∃ routes metrics, g.noteProbe p healthy = { g with routes, metrics } ∧
      HealthNoted g.routes routes := by
  unfold Gateway.noteProbe
  dsimp only
  split
  · exact ⟨_, _, rfl, .inr ⟨_, _, _, rfl⟩⟩
  · exact ⟨_, _, rfl, .inl rfl⟩

/-- What a round of probes changes. -/
theorem stepCheckup_frame (r : GatewayRun) (c : Checkup) :
    ∃ routes metrics network probeLines,
      (r.stepCheckup c).2
        = { r with gateway := { r.gateway with routes, metrics }, network, probeLines } ∧
      HealthNoted r.gateway.routes routes := by
  unfold stepCheckup
  split
  · next p _ =>
    obtain ⟨routes, metrics, h, hnoted⟩ := noteProbe_frame r.gateway p.probe p.healthy
    exact ⟨routes, metrics, r.network, r.probeLines, by rw [h], hnoted⟩
  · exact ⟨_, _, _, _, rfl, .inl rfl⟩
  · exact ⟨r.gateway.routes, r.gateway.metrics, _, _, rfl, .inl rfl⟩

/-- What a chore changes: it may note the health of an instance, or discard idle connections, and
does nothing else to any. -/
theorem attend_frame (r : GatewayRun) (n : Nat) (c : Chore) :
    ∃ routes metrics pools network probeLines chores,
      r.attend n c
        = { r with gateway := { r.gateway with routes, metrics, pools }
                   network, probeLines, chores } ∧
      HealthNoted r.gateway.routes routes ∧
      (pools = r.gateway.pools ∨ pools = (r.gateway.pools.evict r.now).2) := by
  have hstep : ∃ routes metrics pools network probeLines,
      (r.stepChore c).2
        = { r with gateway := { r.gateway with routes, metrics, pools }, network, probeLines } ∧
      HealthNoted r.gateway.routes routes ∧
      (pools = r.gateway.pools ∨ pools = (r.gateway.pools.evict r.now).2) := by
    unfold stepChore
    split
    · exact ⟨_, _, _, _, _, rfl, .inl rfl, .inl rfl⟩
    · next round =>
      obtain ⟨routes, metrics, network, probeLines, h, hnoted⟩ := r.stepCheckup_frame round
      exact ⟨routes, metrics, _, network, probeLines, h, hnoted, .inl rfl⟩
    · next round =>
      obtain ⟨routes, metrics, network, probeLines, h, hnoted⟩ := r.stepCheckup_frame round
      exact ⟨routes, metrics, _, network, probeLines, h, hnoted, .inl rfl⟩
    · exact ⟨_, _, _, _, _, rfl, .inl rfl, .inr rfl⟩
  obtain ⟨routes, metrics, pools, network, probeLines, hchore, hrest⟩ := hstep
  unfold attend
  split
  · exact ⟨_, _, _, _, _, _, rfl, .inl rfl, .inl rfl⟩
  · split
    · next c' r' hs =>
      rw [hs] at hchore
      obtain rfl : r' = _ := hchore
      exact ⟨routes, metrics, pools, network, probeLines, _, rfl, hrest⟩
    · next r' hs =>
      rw [hs] at hchore
      obtain rfl : r' = _ := hchore
      exact ⟨routes, metrics, pools, network, probeLines, _, rfl, hrest⟩

/-- Whatever goes on next, a journey goes on with it. -/
theorem Journey.proceed (h : Journey request r₀ f₀ turns r) (hkeys : r.flights.keys.Nodup)
    (hr' : r.proceed = some r') :
    (∃ turns', Journey request r₀ f₀ turns' r') ∧ r'.flights.keys.Nodup := by
  rcases proceed_cases hr' with ⟨other, f, hmem, hready, rfl⟩ | ⟨n, c, -, rfl⟩
  · refine ⟨?_, nodup_flights_goOn f hkeys⟩
    -- The flight that goes on is this one, or that of another request.
    by_cases hother : other = request
    · subst hother
      exact ⟨_, h.turn (Keyed.findIn_of_mem hkeys hmem) hready⟩
    · exact ⟨_, h.others (interlude_goOn r f hother)⟩
  · obtain ⟨routes, metrics, pools, network, probeLines, chores, hattend, -⟩ := attend_frame r n c
    rw [hattend]
    exact ⟨⟨_, h.others ⟨rfl, Nat.le_refl _, rfl⟩⟩, hkeys⟩

/-- **A gateway at work** keeps a request on its journey, however long it goes on. -/
theorem Journey.runFor (horizon : Option Instant) (reached : GatewayRun → Bool) (fuel : Nat)
    (h : Journey request r₀ f₀ turns r) (hkeys : r.flights.keys.Nodup) :
    ∃ turns', Journey request r₀ f₀ turns' (motion.runFor horizon reached fuel r) := by
  have hkept : (∃ turns', Journey request r₀ f₀ turns' (motion.runFor horizon reached fuel r)) ∧
      (motion.runFor horizon reached fuel r).flights.keys.Nodup := by
    refine Motion.runFor_keeps
      (P := fun r => (∃ turns', Journey request r₀ f₀ turns' r) ∧ r.flights.keys.Nodup)
      ?_ ?_ horizon reached fuel ⟨⟨turns, h⟩, hkeys⟩
    · rintro s s' ⟨⟨turns', h⟩, hkeys⟩ hs'
      exact h.proceed hkeys hs'
    · rintro s t ⟨⟨turns', h⟩, hkeys⟩ hle
      exact ⟨⟨_, h.others ⟨rfl, hle, rfl⟩⟩, hkeys⟩
  exact hkept.1

end GatewayRun

end HttpGateway.Simulation
