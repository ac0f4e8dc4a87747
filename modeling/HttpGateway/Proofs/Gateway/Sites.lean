/-
The turns of a request, as steps of an exchange on the pool of a backend.

* **Phase.place** — how far a request on its way has come with a backend.
* `Site.start_leads`, `Site.resume_leads` — getting a connection is made of the steps of an
  exchange.
* **Changed**, **Moved** — what a turn comes to as far as pools and the requests on their way are
  concerned: one pool may change, and nothing of any other request.
* `goOn_moved` — a turn is a way of the exchange of the request, from its place to another one.
-/
import HttpGateway.Proofs.Forward.Standing
import HttpGateway.Proofs.Gateway.Turns
import HttpGateway.Proofs.Pool.Registry

namespace HttpGateway.Simulation

open Forward Http Request

variable {limits : Pool.Limits} {authority : String} {x : Traffic} {t : Nat} {now : Instant}

/-! ### Getting a connection -/

/-- The place of an attempt to get a connection. -/
def Connecting.place : Connecting → Place
  | .queued t _ => some (t, .waits)
  | .hanging t _ => some (t, .opens)

/-- The place to which an attempt has come. -/
def Progress.place : Progress → Place
  | .waiting c => c.place
  | .connected l => some (l.ticket, .holds)
  | .failed _ => none

/-- The place of a request in a phase. A pause is no part of an exchange. -/
def Phase.place : Phase → Place
  | .connecting c => c.place
  | .exchanging l _ _ _ => some (l.ticket, .holds)
  | .pausing _ => none

namespace Site

variable {s : Site}

theorem connect_leads (hx : Traffic.Reached limits authority x) (hpool : x.pool = s.pool)
    (hs : x.Stands t .opens) (now : Instant) :
    Traffic.Leads limits authority x (some (t, .opens)) (s.connect t now).1.place
      (s.connect t now).2.pool := by
  unfold connect
  dsimp only
  split
  · rw [← hpool]
    exact Traffic.leads_opened hx hs
  · show Traffic.Leads limits authority x _ none (s.pool.leave t)
    rw [← hpool]
    exact Traffic.leads_leave hx hs
  · show Traffic.Leads limits authority x _ (some (t, .opens)) s.pool
    rw [← hpool]
    exact Traffic.leads_nothing hx fun t' s' h => by cases h; exact hs

theorem supply_leads (hx : Traffic.Reached limits authority x) (hpool : x.pool = s.pool)
    (hs : x.Stands t .connects) (now : Instant) :
    Traffic.Leads limits authority x (some (t, .connects)) (s.supply t now).1.place
      (s.supply t now).2.pool := by
  have htake := Traffic.leads_take hx hs now
  rw [hpool] at htake
  unfold supply
  split
  · next c pool h =>
    rw [h] at htake
    exact htake
  · next pool h =>
    rw [h] at htake
    exact htake.next fun y hy hpool' hs' => connect_leads hy hpool' hs' now

theorem start_leads (hx : Traffic.Reached limits authority x) (hpool : x.pool = s.pool)
    (now : Instant) :
    Traffic.Leads limits authority x none (s.start now).1.place (s.start now).2.pool := by
  have hask := Traffic.leads_ask hx
  rw [hpool] at hask
  unfold start
  split
  · next t pool h =>
    rw [h] at hask
    exact hask.next fun y hy hpool' hs' => supply_leads hy hpool' hs' now
  · next t pool h =>
    rw [h] at hask
    exact hask
  · next pool h =>
    rw [h] at hask
    exact hask

theorem resume_leads (hx : Traffic.Reached limits authority x) (hpool : x.pool = s.pool)
    (now : Instant) {c : Connecting} (hs : ∀ t standing, c.place = some (t, standing) →
      x.Stands t standing) :
    Traffic.Leads limits authority x c.place (s.resume now c).1.place
      (s.resume now c).2.pool := by
  cases c with
  | hanging t deadline =>
    show Traffic.Leads limits authority x _ none (s.pool.leave t)
    rw [← hpool]
    exact Traffic.leads_leave hx (hs t .opens rfl)
  | queued t deadline =>
    have hstands := hs t .waits rfl
    simp only [resume]
    split
    · next h =>
      rw [← hpool] at h
      refine (Traffic.leads_enter hx hstands h).next fun y hy hpool' hs' => ?_
      rw [hpool] at hpool'
      exact supply_leads hy hpool' hs' now
    · next h =>
      rw [← hpool] at h
      have hexpire := Traffic.leads_expire hx hstands h
      rw [hpool] at hexpire
      split
      · next e pool he =>
        rw [he] at hexpire
        exact hexpire
      · next pool he =>
        rw [he] at hexpire
        exact hexpire.next fun y hy hpool' hs' => supply_leads hy hpool' hs' now

end Site

/-! ### Turns -/

/-- The backend of a request on its way. -/
def Flight.backend (f : Flight) : String := f.passage.chosen.authority

/-- What is foreseen as the end of an exchange is the outcome of an attempt. -/
def Phase.Foreseen : Phase → Prop
  | .exchanging _ e _ _ => ∃ terms outbound schedule, e.outcome = attempt terms outbound schedule
  | _ => True

namespace GatewayRun

variable {r r₁ r₂ r' : GatewayRun} {request : Nat} {f : Flight} {q q' : Pool}
  {before after : Place}

/-- The pool of a backend. -/
def poolOf (r : GatewayRun) (authority : String) : Pool := (r.gateway.pools.ensure authority).1

/-- The pool of one backend becomes `q`. No other pool changes, nor any request on its way. -/
structure Changed (r : GatewayRun) (authority : String) (q : Pool) (r' : GatewayRun) : Prop where
  pool : r'.poolOf authority = q
  pools : ∀ other, authority ≠ other → r'.poolOf other = r.poolOf other
  limits : r'.gateway.pools.limits = r.gateway.pools.limits
  flights : r'.flights = r.flights
  nextRequest : r'.nextRequest = r.nextRequest

theorem Changed.trans (h₁ : Changed r authority q r₁) (h₂ : Changed r₁ authority q' r₂) :
    Changed r authority q' r₂ where
  pool := h₂.pool
  pools other hne := (h₂.pools other hne).trans (h₁.pools other hne)
  limits := h₂.limits.trans h₁.limits
  flights := h₂.flights.trans h₁.flights
  nextRequest := h₂.nextRequest.trans h₁.nextRequest

theorem changed_withSite (r : GatewayRun) {s : Site} (h : s.pool.authority = authority) :
    Changed r authority s.pool (r.withSite s) := by
  subst h
  exact ⟨Pools.ensure_put_self .., fun _ hne => Pools.ensure_put_other hne, rfl, rfl, rfl⟩

theorem changed_onPool (r : GatewayRun) (authority : String) (change : Pool → Pool)
    (h : change (.create r.gateway.pools.limits authority)
      = .create r.gateway.pools.limits authority) :
    Changed r authority (change (r.poolOf authority)) (r.onPool authority change) :=
  ⟨Pools.ensure_modify_self h, fun _ hne => Pools.ensure_modify_other hne, rfl, rfl, rfl⟩

/-- A turn of a request to a backend: the pool there becomes `q`, and the request comes to the place
`after`, or it is no longer on its way. -/
structure Moved (r : GatewayRun) (request : Nat) (authority : String) (q : Pool) (after : Place)
    (r' : GatewayRun) : Prop where
  pool : r'.poolOf authority = q
  pools : ∀ other, authority ≠ other → r'.poolOf other = r.poolOf other
  limits : r'.gateway.pools.limits = r.gateway.pools.limits
  others : ∀ other, request ≠ other → r'.flights.find other = r.flights.find other
  mine : ∀ f, r'.flights.find request = some f →
    f.backend = authority ∧ f.phase.place = after ∧ f.phase.Foreseen
  present : after ≠ none → ∃ f, r'.flights.find request = some f
  nextRequest : r'.nextRequest = r.nextRequest

theorem Changed.enter (h : Changed r f.backend q r₁) (phase : Phase) (hphase : phase.Foreseen) :
    Moved r request f.backend q phase.place (r₁.enter request f phase) where
  pool := h.pool
  pools := h.pools
  limits := h.limits
  others other hne := by
    rw [← h.flights]
    exact Keyed.find_set_other _ hne _
  mine f' hf' := by
    obtain rfl := Option.some.inj ((Keyed.find_set_self ..).symm.trans hf')
    exact ⟨rfl, rfl, hphase⟩
  present _ := ⟨_, Keyed.find_set_self ..⟩
  nextRequest := h.nextRequest

theorem Changed.attemptOver (h : Changed r f.backend q r₁)
    (outcome : Except RequestError Response) :
    Moved r request f.backend q none (r₁.attemptOver request f outcome) := by
  rcases attemptOver_cases r₁ request f outcome with ⟨pause, -, hover⟩ | ⟨-, hover⟩
  · rw [hover]
    exact h.enter (.pausing (r₁.now + pause)) trivial
  · obtain ⟨breakers, metrics, desk, responses, hland⟩ := land_frame r₁ request f outcome
    rw [hover, hland]
    refine ⟨h.pool, h.pools, h.limits, fun other hne => ?_, fun f' hf' => ?_, by simp,
      h.nextRequest⟩
    · rw [← h.flights]
      exact Keyed.find_erase_other _ hne
    · exact absurd ((Keyed.find_erase_self ..).symm.trans hf') (by simp)

/-- A request that has got a connection: it is handed over, or all is given up. -/
theorem send_moved (request : Nat) {y : Traffic} {l : Lent}
    (hy : Traffic.Reached limits f.backend y) (hs : y.Stands l.ticket .holds)
    (hchanged : Changed r f.backend y.pool r₁) :
    ∃ after q, Traffic.Leads limits f.backend y (some (l.ticket, .holds)) after q ∧
      Moved r request f.backend q after (r₁.send request f l) := by
  rcases send_attempts r₁ request f l with
    ⟨e, hattempt, hsend⟩ | ⟨schedule, network, ending, leavesOpen, hattempt, hsend⟩
  · rw [hsend]
    have hsettle := Traffic.leads_settle hy hs r₁.now
      ⟨r₁.gateway.timeouts, r₁.gateway.mostBytes, f.passage.chosen.authority⟩
      f.passage.outbound []
    rw [hattempt []] at hsettle
    have hsettled := changed_onPool r₁ f.backend
      (fun p => settle p l.ticket r₁.now (.error e)) rfl
    rw [hchanged.pool] at hsettled
    exact ⟨none, _, hsettle, (hchanged.trans hsettled).attemptOver _⟩
  · rw [hsend]
    have hentered : Changed r f.backend y.pool { r₁ with network } :=
      ⟨hchanged.pool, hchanged.pools, hchanged.limits, hchanged.flights, hchanged.nextRequest⟩
    have hforeseen :
        (Phase.exchanging l ending (r₁.now + ending.took) leavesOpen).Foreseen :=
      ⟨_, _, _, hattempt⟩
    refine ⟨some (l.ticket, .holds), y.pool, Traffic.leads_nothing hy fun t' s' h => ?_,
      hentered.enter _ hforeseen⟩
    cases h
    exact hs

/-- A request that has come so far in getting a connection. -/
theorem onProgress_moved (request : Nat) {progress : Progress} {s : Site}
    (h : Traffic.Leads limits f.backend x before progress.place s.pool) :
    ∃ after q, Traffic.Leads limits f.backend x before after q ∧
      Moved r request f.backend q after (r.onProgress request f (progress, s)) := by
  obtain ⟨y, hshifts, hpool⟩ := h
  have hauthority : s.pool.authority = f.backend := hpool ▸ hshifts.reached.session.authority
  have hchanged := changed_withSite r hauthority
  cases progress with
  | waiting c =>
    exact ⟨_, _, ⟨y, hshifts, hpool⟩, hchanged.enter (.connecting c) trivial⟩
  | failed e => exact ⟨_, _, ⟨y, hshifts, hpool⟩, hchanged.attemptOver _⟩
  | connected l =>
    have hmeasured : ∀ metrics, Changed r f.backend y.pool { r.withSite s with
        gateway := { (r.withSite s).gateway with metrics } } := fun metrics => by
      rw [hpool]
      exact ⟨hchanged.pool, hchanged.pools, hchanged.limits, rfl, rfl⟩
    obtain ⟨after, q, ⟨z, hshifts', hq⟩, hmoved⟩ := send_moved request
      hshifts.reached (hshifts.stands _ _ rfl) (hmeasured _)
    exact ⟨after, q, ⟨z, hshifts.trans hshifts', hq⟩, hmoved⟩

/-- A pool in which nobody has a seat stays as it is. -/
theorem settle_create (limits : Pool.Limits) (authority : String) (t : Nat) (now : Instant)
    (outcome : Except RequestError Response) :
    settle (.create limits authority) t now outcome = .create limits authority := by
  unfold settle
  split <;> rfl

/-- **A turn of a request** is a way of its exchange, and of no other one. -/
theorem goOn_moved (request : Nat)
    (hx : Traffic.Reached r.gateway.pools.limits f.backend x)
    (hpool : x.pool = r.poolOf f.backend)
    (hstands : ∀ t s, f.phase.place = some (t, s) → x.Stands t s)
    (hforeseen : f.phase.Foreseen) :
    ∃ after q, Traffic.Leads r.gateway.pools.limits f.backend x f.phase.place after q ∧
      Moved r request f.backend q after (r.goOn request f) := by
  cases hphase : f.phase with
  | connecting c =>
    rw [hphase] at hstands
    have hgo : r.goOn request f = r.onProgress request f ((r.site f).resume r.now c) := by
      rw [goOn, hphase]
    rw [hgo]
    exact onProgress_moved request (Site.resume_leads hx hpool r.now hstands)
  | pausing due =>
    let f' : Flight := { f with attempt := f.attempt + 1 }
    let r₁ : GatewayRun := { r with gateway := { r.gateway with
      metrics := r.gateway.metrics.attempt f.backend } }
    have hgo : r.goOn request f = r₁.onProgress request f' ((r₁.site f').start r₁.now) := by
      rw [goOn, hphase]
      rfl
    obtain ⟨after, q, hleads, hmoved⟩ := onProgress_moved request (f := f') (r := r₁)
      (Site.start_leads (s := r₁.site f') hx hpool r₁.now)
    rw [hgo]
    exact ⟨after, q, hleads, hmoved.pool, hmoved.pools, hmoved.limits, hmoved.others, hmoved.mine,
      hmoved.present, hmoved.nextRequest⟩
  | exchanging l e due leavesOpen =>
    rw [hphase] at hstands hforeseen
    obtain ⟨terms, outbound, schedule, houtcome⟩ := hforeseen
    have hs : x.Stands l.ticket .holds := hstands _ _ rfl
    let change : Pool → Pool := fun p =>
      settle (if leavesOpen then p else p.noteClosed (· = l.connection)) l.ticket r.now e.outcome
    have hgo : r.goOn request f = (r.onPool f.backend change).attemptOver request f e.outcome := by
      rw [goOn, hphase]
      rfl
    -- The backend has a pool, for the request has a seat there; this is not needed here.
    have hcreate : ∀ limits, change (.create limits f.backend) = .create limits f.backend := by
      intro limits
      cases leavesOpen <;> exact settle_create ..
    rw [hgo]
    refine ⟨none, _, ?_, (changed_onPool r f.backend change (hcreate _)).attemptOver _⟩
    rw [← hpool]
    show Traffic.Leads _ _ x _ none (settle (if leavesOpen then x.pool else _) _ _ e.outcome)
    rw [houtcome]
    cases leavesOpen with
    | true => exact Traffic.leads_settle hx hs r.now terms outbound schedule
    | false =>
      -- The backend closes the connection first.
      refine (Traffic.leads_noteClosed hx hstands (· = l.connection)).next fun y hy hpool' hs' => ?_
      rw [← hpool']
      exact Traffic.leads_settle hy hs' r.now terms outbound schedule

end GatewayRun

end HttpGateway.Simulation
