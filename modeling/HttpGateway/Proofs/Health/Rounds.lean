/-
Rounds of probes.

* **IsSet** — an instance as its settings say, whatever its health is by now.
* **Asks** — what it does to the network if something is asked for at a host and a port.
* **Tended** — what becomes of a gateway whose routes and whose way of probing are left alone. A
  round by itself, and rounds every so often, are part of that (`Tended.checkHealth`,
  `Tended.watch`).
* **OnDuty** — what is left of each round are probes of the last instances, and each request on its
  way goes below the base path of one of them. Every step keeps this.
* `probes_beside_requests` — a probe asks for its path at the instance where requests go, below the
  same base path, exactly if the path can be written behind the base URL of the instance.
* `probes_astray` — settings in which it cannot are accepted.

A round works through the instances as they were when it began, while requests and the outcomes of
other rounds change their health. So instances are compared without it.
-/
import HttpGateway.Proofs.Health.Aim
import HttpGateway.Proofs.Lifecycle.Tokens

namespace HttpGateway

open Forward Health Http Request Route Settings Simulation

variable {path : String}

/-! ### Instances as they are set -/

namespace Route

variable {i j : Instance} {spec : InstanceSpec}

/-- A target below a base path. -/
def Below (base target : List Char) : Prop :=
  ∃ rest, target = withoutTrailingSlashes base ++ '/' :: rest

theorem below_backendTarget (target : List Char) (query : Option (List Char)) (depth : Nat)
    (base : List Char) : Below base (backendTarget target query depth base) := by
  unfold backendTarget backendPath
  cases query with
  | none => exact ⟨_, List.append_assoc ..⟩
  | some query =>
    dsimp only
    rw [List.append_assoc, List.append_assoc]
    exact ⟨_, rfl⟩

/-- An instance without what is known of its health. -/
def Instance.unmarked (i : Instance) : Instance := { i with health := ⟨.unknown, 0, 0⟩ }

/-- An instance as its settings say, whatever its health is by now. -/
def Instance.IsSet (i : Instance) (spec : InstanceSpec) : Prop :=
  Instance.ofSpec spec = .ok { i with health := .given spec.healthy }

/-- What is like an instance that was built, but for the health, is as it is set. -/
theorem isSet_of_unmarked (h : Instance.ofSpec spec = .ok i) (hj : j.unmarked = i.unmarked) :
    j.IsSet spec := by
  have hsame : { j with health := i.health } = i :=
    congrArg (fun k : Instance => { k with health := i.health }) hj
  obtain ⟨u, host, -, -, -, hhealth⟩ := Outbound.of_ofSpec h
  unfold Instance.IsSet
  rw [← hhealth, hsame, h]

/-- Where an instance is probed goes by its URL. -/
theorem probeTarget?_of_url (h : i.url = j.url) : probeTarget? i path = probeTarget? j path := by
  unfold probeTarget?
  rw [h]

/-- An accepted instance has the host of its URL, and its port, or the default one. -/
theorem Instance.IsSet.located (h : i.IsSet spec) (haccepted : spec.Accepted) : Located i := by
  obtain ⟨u, host, hparse, hscheme, hhost⟩ := haccepted.url
  have hport := effectivePort?_of_http hscheme
  unfold Instance.IsSet Instance.ofSpec at h
  simp only [hparse, hhost, hport] at h
  have hi := Except.ok.inj h
  obtain rfl : u = i.url := congrArg Instance.url hi
  refine ⟨Url.sited_of_parse hparse hscheme hhost, ?_, (congrArg Instance.port hi).symm⟩
  rw [Url.hostText, hhost]
  exact (congrArg Instance.host hi).symm

end Route

/-- The instances of all routes, whatever their health is. -/
def Gateway.instances (g : Gateway) : List Instance :=
  (g.routes.flatMap (·.instances)).map Instance.unmarked

/-- A round has one probe for each instance. -/
theorem Gateway.map_round (g : Gateway) :
    g.round.map (·.probed) = g.routes.flatMap (·.instances) := by
  rw [round, List.map_flatMap]
  congr 1
  funext r
  rw [List.map_map]
  exact List.zipIdx_map_fst 0 r.instances

theorem Gateway.instances_of_healthNoted {g g' : Gateway}
    (h : GatewayRun.HealthNoted g.routes g'.routes) : g'.instances = g.instances := by
  have hsame := GatewayRun.map_of_healthNoted (h := fun r => r.instances.map Instance.unmarked)
    (fun r place f => GatewayRun.map_modify_of_eq (f := fun i => { i with health := f i.health })
      (fun _ => rfl) r.instances place) h
  rw [instances, instances, List.map_flatMap, List.map_flatMap, List.flatMap_def, List.flatMap_def]
  exact congrArg List.flatten hsame

/-! ### A probe -/

namespace Simulation

/-- What it does to the network to ask for something at a host and a port: no connection comes
about, or the request is sent on one, a new one or one that was kept. -/
inductive Asks (host : String) (port : Nat) (wanted : String) (n : Network) : Network → Prop
  | unreached : (∀ number, (n.dial host port).1 ≠ .reached number) →
      Asks host port wanted n (n.dial host port).2
  | anew {number : Nat} (fields : Fields) : (n.dial host port).1 = .reached number →
      Asks host port wanted n
        ((n.dial host port).2.send port ⟨number, "GET", wanted, fields, emptyBody⟩).2
  | again (number : Nat) (fields : Fields) : host = backendHost →
      Asks host port wanted n (n.send port ⟨number, "GET", wanted, fields, emptyBody⟩).2

theorem Line.network_sendProbe (l : Line) (p : Probe) (port number : Nat) (target : Target)
    (now limit : Instant) :
    (l.sendProbe p port number target now limit).2.network
      = (l.network.send port ⟨number, "GET", String.ofList target.pathAndQuery,
          probeFields target, emptyBody⟩).2 := by
  unfold sendProbe
  dsimp only
  split
  · split
    · split <;> rfl
    · rfl
  · rfl

/-- A probe that goes home asks its instance for the path. -/
theorem Line.probe_asks {p : Probe} (h : AtHome p.probed path) (l : Line) (now limit : Instant) :
    Asks p.probed.host p.probed.port
      (String.ofList (withoutTrailingSlashes p.probed.url.path ++ path.toList)) l.network
      (l.probe p path now limit).2.network := by
  obtain ⟨t, ht, hscheme, hhost, hport, hwanted⟩ := h
  have hprobed : (probeTarget? p.probed path).filter (·.scheme = some probeScheme) = some t := by
    rw [ht]
    exact Option.filter_some_pos (by simpa using hscheme)
  rw [← hhost, ← hport, ← hwanted]
  unfold Line.probe
  rw [hprobed]
  dsimp only
  -- A connection that was kept is used again; if there is none, one is dialled.
  split
  · next number hkept =>
    rw [network_sendProbe]
    refine .again number _ ?_
    split at hkept
    · assumption
    · cases hkept
  · split
    · next number hreach =>
      rw [network_sendProbe]
      exact .anew _ hreach
    · next reason hreach => exact .unreached fun number hnumber => by simp [hreach] at hnumber
    · next hreach => exact .unreached fun number hnumber => by simp [hreach] at hnumber

/-! ### Rounds -/

/-- The round that a chore is at, if it is one of probing. -/
def Chore.round? : Chore → Option Checkup
  | .monitor _ round => round
  | .checkup round => some round
  | .sweeper _ => none

/-- The probes that a chore has still to make. -/
def Chore.left (c : Chore) : List Probe := c.round?.elim [] (·.left)

namespace GatewayRun

variable {r r' r₀ : GatewayRun} {n : Nat} {c : Chore} {round : Checkup} {p : Probe}
  {left : List Probe} {request visit : Nat} {f : Flight} {incoming : Incoming} {body : ByteArray}
  {all : List Instance}

/-- The rounds of a gateway come of those that it was at, or have begun since. -/
def RoundsFrom (r r' : GatewayRun) : Prop :=
  ∀ e ∈ r'.chores.entries,
    e.2.left <:+ r.gateway.round ∨ ∃ e' ∈ r.chores.entries, e.2.left <:+ e'.2.left

theorem roundsFrom_of_chores (h : r'.chores = r.chores) : RoundsFrom r r' := fun e he =>
  .inr ⟨e, h ▸ he, List.suffix_refl _⟩

theorem left_stepCheckup (r : GatewayRun) (round : Checkup) :
    (r.stepCheckup round).1.left <:+ round.left := by
  obtain ⟨left, current⟩ := round
  cases current with
  | some p => exact List.suffix_refl _
  | none =>
    cases left with
    | nil => exact List.suffix_refl _
    | cons p left => exact List.suffix_cons p left

/-- A step of a chore makes the next probe of its round, or begins a round with all probes. -/
theorem left_stepChore {c' : Chore} (h : (r.stepChore c).1 = some c') :
    c'.left <:+ c.left ∨ c'.left = r.gateway.round := by
  have hround : ∀ round : Checkup, (r.stepCheckup round).1.left <:+ round.left :=
    left_stepCheckup r
  cases c with
  | monitor next round =>
    cases round with
    | none =>
      obtain rfl := Option.some.inj h
      exact .inr rfl
    | some round =>
      have hrest : ∀ b : Bool,
          (Chore.monitor next (if b then none else some (r.stepCheckup round).1)).left
            <:+ round.left := by
        rintro (_ | _)
        · exact hround round
        · exact List.nil_suffix
      obtain rfl := Option.some.inj h
      exact .inl (hrest _)
  | checkup round =>
    simp only [stepChore] at h
    split at h
    · cases h
    · obtain rfl := Option.some.inj h
      exact .inl (hround round)
  | sweeper next =>
    obtain rfl := Option.some.inj h
    exact .inl (List.suffix_refl _)

theorem chores_stepCheckup (r : GatewayRun) (round : Checkup) :
    (r.stepCheckup round).2.chores = r.chores := by
  obtain ⟨routes, metrics, network, probeLines, h, -⟩ := r.stepCheckup_frame round
  rw [h]

theorem chores_stepChore (r : GatewayRun) (c : Chore) : (r.stepChore c).2.chores = r.chores := by
  unfold stepChore
  split
  · rfl
  · exact chores_stepCheckup ..
  · exact chores_stepCheckup ..
  · rfl

theorem roundsFrom_attend (hc : (n, c) ∈ r.chores.entries) : RoundsFrom r (r.attend n c) := by
  have herased : ∀ chores : Keyed Nat Chore, chores = r.chores →
      ∀ e ∈ (chores.erase n).entries, e ∈ r.chores.entries := by
    rintro _ rfl e he
    exact List.mem_of_mem_filter he
  have hkept : ∀ e ∈ r.chores.entries,
      e.2.left <:+ r.gateway.round ∨ ∃ e' ∈ r.chores.entries, e.2.left <:+ e'.2.left :=
    fun e he => .inr ⟨e, he, List.suffix_refl _⟩
  have hchores := chores_stepChore r c
  -- Only this chore has changed: it is gone, has less to do, or has just begun with all probes.
  unfold attend
  split
  · exact fun e he => hkept e (herased _ rfl e he)
  · split
    · next c' r₁ hstep =>
      have hleft : c'.left <:+ c.left ∨ c'.left = r.gateway.round :=
        left_stepChore (congrArg Prod.fst hstep)
      rw [hstep] at hchores
      intro e he
      rcases Keyed.mem_set he with rfl | he
      · rcases hleft with hleft | hleft
        · exact .inr ⟨(n, c), hc, hleft⟩
        · exact .inl (hleft ▸ List.suffix_refl _)
      · exact hkept e (hchores ▸ he)
    · next r₁ hstep =>
      rw [hstep] at hchores
      exact fun e he => hkept e (herased _ hchores e he)

theorem network_attend (h : (r.stopping && c.endsNow) = false) (n : Nat) :
    (r.attend n c).network = (r.stepChore c).2.network := by
  unfold attend
  rw [h, if_neg Bool.false_ne_true]
  split
  · next hstep => rw [hstep]
  · next hstep => rw [hstep]

theorem network_stepCheckup (r : GatewayRun) (p : Probe) (left : List Probe) :
    (r.stepCheckup ⟨p :: left, none⟩).2.network = ((⟨r.network, r.probeLines⟩ : Line).probe p
      r.gateway.healthCheck.path r.now (.ofSecs r.gateway.healthCheck.timeoutSecs)).2.network := by
  unfold stepCheckup
  rfl

/-- When a chore makes a probe, what the network comes to is what the probe does to it. -/
theorem network_attend_probe (hc : c.round? = some ⟨p :: left, none⟩) (n : Nat) :
    (r.attend n c).network = ((⟨r.network, r.probeLines⟩ : Line).probe p
      r.gateway.healthCheck.path r.now (.ofSecs r.gateway.healthCheck.timeoutSecs)).2.network := by
  rw [← network_stepCheckup r p left]
  cases c with
  | monitor next round =>
    obtain rfl : round = some ⟨p :: left, none⟩ := hc
    rw [network_attend (Bool.and_false _), stepChore]
  | checkup round =>
    obtain rfl : round = ⟨p :: left, none⟩ := Option.some.inj hc
    rw [network_attend (Bool.and_false _), stepChore]
  | sweeper next => cases hc

/-! ### Requests on their way -/

/-- A request for an instance, below its base path. -/
structure Prepared (all : List Instance) (p : Passage) : Prop where
  chosen : p.chosen.unmarked ∈ all
  below : Below p.chosen.url.path p.outbound.pathAndQuery.toList

/-- A dispatch prepares requests for the instances of the routes that there are. -/
theorem prepared_of_dispatch {g : Gateway} {now : Instant} {c₀ : Context} {p : Passage}
    (h : (g.dispatch now c₀).1 = .forwarded p) : Prepared g.instances p := by
  obtain ⟨route, c, g', haddressed⟩ := Gateway.addressed_of_passage h
  have hinstance := haddressed.healthy.1
  cases haddressed with
  | intro hrouted _ hout =>
    cases hrouted with
    | intro _ hfind _ =>
      refine ⟨List.mem_map_of_mem (List.mem_flatMap_of_mem (List.mem_of_find?_eq_some hfind)
        hinstance), ?_⟩
      unfold Outbound.ofRequest at hout
      split at hout
      · cases hout
      · rw [← Except.ok.inj hout, String.toList_ofList]
        exact below_backendTarget ..

/-- A turn keeps what a request was prepared for. -/
theorem passage_goOn (r : GatewayRun) (request : Nat) (f : Flight) :
    ∀ e ∈ (r.goOn request f).flights.entries, e ∈ r.flights.entries ∨ e.2.passage = f.passage := by
  refine goOn_keeps (P := fun r' => ∀ e ∈ r'.flights.entries,
    e ∈ r.flights.entries ∨ e.2.passage = f.passage) r request f ?_ ?_ ?_
  · rintro _ ⟨⟩ e he
    exact .inl he
  · intro r₁ phase h e he
    rcases Keyed.mem_set he with rfl | he
    · exact .inr (atWork_same f).2.2
    · exact h e he
  · intro r₁ outcome h e he
    obtain ⟨breakers, metrics, desk, responses, hland⟩ := land_frame r₁ request f.atWork outcome
    rw [hland] at he
    exact h e (List.mem_of_mem_filter he)

/-! ### A gateway at work -/

/-- All probes that are still to be made, and all requests on their way, are for the instances that
there are, whatever their health is; and those of a round are the last ones. -/
structure OnDuty (all : List Instance) (r : GatewayRun) : Prop where
  instances : r.gateway.instances = all
  left : ∀ e ∈ r.chores.entries, e.2.left.map (·.probed.unmarked) <:+ all
  flights : ∀ e ∈ r.flights.entries, Prepared all e.2.passage

theorem map_round_unmarked (g : Gateway) : g.round.map (·.probed.unmarked) = g.instances := by
  rw [Gateway.instances, ← g.map_round, List.map_map]
  rfl

theorem OnDuty.congr (h : OnDuty all r)
    (hinstances : r'.gateway.instances = r.gateway.instances) (hrounds : RoundsFrom r r')
    (hflights : r'.flights = r.flights) : OnDuty all r' where
  instances := hinstances.trans h.instances
  left e he := by
    rcases hrounds e he with hleft | ⟨e', he', hleft⟩
    · rw [← h.instances, ← map_round_unmarked]
      exact hleft.map _
    · exact (hleft.map _).trans (h.left e' he')
  flights := hflights ▸ h.flights

theorem Intact.instances (h : Intact r r') : r'.gateway.instances = r.gateway.instances := by
  rw [Gateway.instances, Gateway.instances, h.routes]

theorem OnDuty.goOn (h : OnDuty all r) (request : Nat) (hf : Prepared all f.passage) :
    OnDuty all (r.goOn request f) := by
  have hintact := intact_goOn r request f
  refine ⟨hintact.instances.trans h.instances, hintact.chores ▸ h.left, fun e he => ?_⟩
  rcases passage_goOn r request f e he with he | he
  · exact h.flights e he
  · exact he ▸ hf

theorem OnDuty.run (h : OnDuty all r) (request visit : Nat) (incoming : Incoming)
    (body : ByteArray) : OnDuty all (r.run request visit incoming body) := by
  obtain ⟨memory, balancers, breakers, metrics, ⟨desk, responses, hrun⟩ | ⟨p, hp, hrun⟩⟩ :=
    run_cases r request visit incoming body
  · rw [hrun]
    exact h.congr rfl (roundsFrom_of_chores rfl) rfl
  · have hprepared := prepared_of_dispatch hp
    rw [h.instances] at hprepared
    have hsent : OnDuty all { r with
        gateway := { r.gateway with memory, balancers, breakers, metrics }
        desk := r.desk.start visit } := h.congr rfl (roundsFrom_of_chores rfl) rfl
    rw [hrun]
    exact hsent.goOn request hprepared

theorem OnDuty.begin (h : OnDuty all r) (incoming : Incoming) :
    OnDuty all (r.begin incoming).2 := by
  rcases begin_cases r incoming with ⟨desk, responses, hbegin⟩ | ⟨desk, visit, body, hbegin⟩
  · rw [hbegin]
    exact h.congr rfl (roundsFrom_of_chores rfl) rfl
  · have hin : OnDuty all { r with nextRequest := r.nextRequest + 1, desk } :=
      h.congr rfl (roundsFrom_of_chores rfl) rfl
    rw [hbegin]
    exact hin.run _ visit _ body

theorem OnDuty.attend (h : OnDuty all r) (hc : (n, c) ∈ r.chores.entries) :
    OnDuty all (r.attend n c) := by
  have hrounds := roundsFrom_attend hc
  obtain ⟨routes, metrics, pools, network, probeLines, chores, hattend, hnoted, -⟩ :=
    attend_frame r n c
  rw [hattend] at hrounds ⊢
  exact h.congr (Gateway.instances_of_healthNoted hnoted) hrounds rfl

theorem OnDuty.proceed (h : OnDuty all r) (hr' : r.proceed = some r') :
    OnDuty all r' := by
  rcases proceed_cases hr' with ⟨request, f, hf, -, rfl⟩ | ⟨n, c, hc, rfl⟩
  · exact h.goOn request (h.flights _ hf)
  · exact h.attend hc

/-- What becomes of a gateway: requests come in, all goes on that can, rounds are begun, and
whatever else there is that leaves alone the instances, but for their health, and the way they are
probed. -/
inductive Tended (r₀ : GatewayRun) : GatewayRun → Prop
  | start : Tended r₀ r₀
  | comes {r : GatewayRun} (incoming : Incoming) : Tended r₀ r → Tended r₀ (r.begin incoming).2
  | proceeds {r r' : GatewayRun} : Tended r₀ r → r.proceed = some r' → Tended r₀ r'
  | aside {r r' : GatewayRun} : Tended r₀ r → r'.gateway.healthCheck = r.gateway.healthCheck →
      r'.gateway.instances = r.gateway.instances → RoundsFrom r r' → r'.flights = r.flights →
      Tended r₀ r'

theorem Tended.onDuty (h : Tended r₀ r) (h₀ : OnDuty all r₀) : OnDuty all r := by
  induction h with
  | start => exact h₀
  | comes incoming _ ih => exact ih.begin incoming
  | proceeds _ hr' ih => exact ih.proceed hr'
  | aside _ _ hinstances hrounds hflights ih => exact ih.congr hinstances hrounds hflights

theorem healthCheck_proceed (h : r.proceed = some r') :
    r'.gateway.healthCheck = r.gateway.healthCheck := by
  rcases proceed_cases h with ⟨request, f, -, -, rfl⟩ | ⟨n, c, -, rfl⟩
  · exact (intact_goOn r request f).healthCheck
  · obtain ⟨routes, metrics, pools, network, probeLines, chores, hattend, -, -⟩ :=
      attend_frame r n c
    rw [hattend]

theorem Tended.healthCheck (h : Tended r₀ r) :
    r.gateway.healthCheck = r₀.gateway.healthCheck := by
  induction h with
  | start => rfl
  | @comes r incoming _ ih => exact (intact_begin r incoming).healthCheck.trans ih
  | proceeds _ hr' ih => exact (healthCheck_proceed hr').trans ih
  | aside _ hset _ _ _ ih => exact hset.trans ih

/-- A chore may be started if its probes are the last ones of a round. -/
theorem Tended.startChore (h : Tended r₀ r) (hc : c.left <:+ r.gateway.round) :
    Tended r₀ (r.startChore c) := by
  refine h.aside rfl rfl (fun e he => ?_) rfl
  rcases Keyed.mem_set he with rfl | he
  · exact .inl hc
  · exact .inr ⟨e, he, List.suffix_refl _⟩

theorem Tended.runFor (h : Tended r₀ r) (horizon : Option Instant) (reached : GatewayRun → Bool)
    (fuel : Nat) : Tended r₀ (motion.runFor horizon reached fuel r) :=
  Motion.runFor_keeps (fun _ _ h hr' => h.proceeds hr')
    (fun _ _ h _ => h.aside rfl rfl (roundsFrom_of_chores rfl) rfl) horizon reached fuel h

/-- A round of probes by itself. -/
theorem Tended.checkHealth (h : Tended r₀ r) : Tended r₀ r.checkHealth := by
  unfold GatewayRun.checkHealth
  dsimp only
  split
  · exact h
  · exact (h.startChore (List.suffix_refl _)).runFor _ _ _

/-- Rounds of probes every so often. -/
theorem Tended.watch (h : Tended r₀ r) : Tended r₀ r.watch := by
  have hmonitor : Tended r₀
      (if r.gateway.healthCheck.enabled then r.startChore (.monitor r.now none) else r) := by
    split
    · exact h.startChore List.nil_suffix
    · exact h
  unfold GatewayRun.watch
  dsimp only
  exact (hmonitor.startChore (c := .sweeper _) List.nil_suffix).aside rfl rfl
    (roundsFrom_of_chores rfl) rfl

/-- Where a request on its way goes: to the host and to the port of its instance, and below the base
path. -/
structure Bound (r : GatewayRun) (f : Flight) : Prop where
  host : (r.site f).host = f.passage.chosen.host
  port : (r.site f).port = f.passage.chosen.port
  below : Below f.passage.chosen.url.path f.passage.outbound.pathAndQuery.toList

end GatewayRun

end Simulation

namespace Lifecycle

open Simulation.GatewayRun

variable {s : Settings} {filters : Filter.Registry} {jitter : Nat → Nat} {g : Gateway}
  {is js : List Instance} {specs : List InstanceSpec}

theorem onDuty_create (s : Settings) (g : Gateway) (network : Network) (madeId : String) :
    OnDuty g.instances (create s g network madeId) where
  instances := rfl
  left _ he := absurd he List.not_mem_nil
  flights _ he := absurd he List.not_mem_nil

/-- What is like the instances that were built, but for their health, is as they are set. -/
theorem isSet_of_map_unmarked
    (h : List.Forall₂ (fun i spec => Instance.ofSpec spec = .ok i) is specs)
    (hjs : js.map Instance.unmarked = is.map Instance.unmarked) :
    List.Forall₂ Instance.IsSet js specs := by
  induction h generalizing js with
  | nil =>
    rw [List.map_nil, List.map_eq_nil_iff] at hjs
    exact hjs ▸ .nil
  | cons hi _ ih =>
    obtain ⟨j, js, rfl, hj, hjs⟩ := List.map_eq_cons_iff.mp hjs
    exact .cons (isSet_of_unmarked hi hj) (ih hjs)

/-- The last of the instances are as the last of the settings say. -/
theorem isSet_of_suffix (h : List.Forall₂ (fun i spec => Instance.ofSpec spec = .ok i) is specs)
    (hjs : js.map Instance.unmarked <:+ is.map Instance.unmarked) :
    ∃ behind, behind <:+ specs ∧ List.Forall₂ Instance.IsSet js behind := by
  have hdrop := List.suffix_iff_eq_drop.mp hjs
  rw [← List.map_drop] at hdrop
  exact ⟨_, List.drop_suffix _ specs, isSet_of_map_unmarked (List.forall₂_drop _ h) hdrop⟩

/-- **Probes go where requests go, if their path can be written behind the base URL.** Whatever
becomes of a gateway that was built from its settings, each round has one probe for each instance of
these, and what is left of it are the last ones; each request on its way goes to the host and the
port of such an instance, and below its base path. A probe is aimed at the host, at the port and
below the base path of its instance, at the path that is set, exactly if the base URL can be joined
with that path; and whenever such a probe is made, that is what is asked for, there. -/
theorem probes_beside_requests (hbuilt : build s filters jitter = .ok g) {network : Network}
    {madeId : String} {r : GatewayRun} (hr : Tended (create s g network madeId) r) :
    let specs := s.routes.flatMap (·.instances)
    let path := s.healthCheck.path
    List.Forall₂ Instance.IsSet (r.gateway.round.map (·.probed)) specs ∧
    (∀ n c round, (n, c) ∈ r.chores.entries → c.round? = some round →
      (∃ behind, behind <:+ specs ∧
        List.Forall₂ Instance.IsSet (round.left.map (·.probed)) behind) ∧
      ∀ p left, round = ⟨p :: left, none⟩ →
        (AtHome p.probed path ↔ Joins p.probed.url path.toList) ∧
        (Joins p.probed.url path.toList →
          Asks p.probed.host p.probed.port
            (String.ofList (withoutTrailingSlashes p.probed.url.path ++ path.toList))
            r.network (r.attend n c).network)) ∧
    ∀ request f, (request, f) ∈ r.flights.entries →
      (∃ spec ∈ specs, f.passage.chosen.IsSet spec) ∧ Bound r f := by
  intro specs path
  obtain ⟨hproblems, hg⟩ := ofSettings_of_build hbuilt
  have haccepted := accepted_of_problems hproblems
  obtain ⟨-, -, hset, hinstances⟩ := Gateway.builtFrom_of_ofSettings hg
  have hduty := hr.onDuty (onDuty_create s g network madeId)
  have hlocated : ∀ {i : Instance} {spec : InstanceSpec}, spec ∈ specs → i.IsSet spec →
      Located i := fun hspec hi => by
    obtain ⟨route, hroute, hspec⟩ := List.mem_flatMap.mp hspec
    exact hi.located ((haccepted.routes route hroute).instances _ hspec)
  -- What is known without the health of instances is said of their settings here.
  refine ⟨?_, fun n c round hc hround => ?_, fun request f hf => ?_⟩
  · refine isSet_of_map_unmarked hinstances ?_
    rw [List.map_map]
    exact (map_round_unmarked _).trans hduty.instances
  · have hleft := hduty.left (n, c) hc
    rw [Chore.left, hround, Option.elim_some] at hleft
    have hsuffix : (round.left.map (·.probed)).map Instance.unmarked <:+ g.instances := by
      rwa [List.map_map]
    obtain ⟨behind, hbehind, hbuiltLeft⟩ := isSet_of_suffix hinstances hsuffix
    refine ⟨⟨behind, hbehind, hbuiltLeft⟩, ?_⟩
    rintro p left rfl
    obtain ⟨spec, hspec, hp⟩ := exists_of_forall₂_mem hbuiltLeft List.mem_cons_self
    have hiff := atHome_iff (hlocated (hbehind.subset hspec) hp) path
    refine ⟨hiff, fun hjoins => ?_⟩
    have hway : r.gateway.healthCheck = s.healthCheck := hr.healthCheck.trans hset
    rw [network_attend_probe hround, hway]
    exact Line.probe_asks (hiff.mpr hjoins) ⟨r.network, r.probeLines⟩ _ _
  · obtain ⟨hchosen, hbelow⟩ := hduty.flights (request, f) hf
    obtain ⟨i, hi, hsame⟩ := List.mem_map.mp hchosen
    obtain ⟨spec, hspec, hbuiltChosen⟩ := exists_of_forall₂_mem hinstances hi
    exact ⟨⟨spec, hspec, isSet_of_unmarked hbuiltChosen hsame.symm⟩, rfl, rfl, hbelow⟩

/-- The first probe of a round of an instance with a base path. -/
theorem probes_beside_requests_base_path :
    let spec : InstanceSpec := { serviceId := "web", url := "http://[::1]:81/base/" }
    let s : Settings := { routes := [{ id := "a", path := "/a", instances := [spec] }] }
    ∃ g p, build s .builtin (fun _ => 0) = .ok g ∧ g.round = [p] ∧ p.probed.IsSet spec ∧
      Joins p.probed.url "/health".toList ∧
      Asks "[::1]" 81 "/base/health" ⟨true, .empty⟩
        (((create s g ⟨true, .empty⟩ "7").startChore (.checkup (.begin g.round))).attend 0
          (.checkup (.begin g.round))).network := by
  intro spec s
  have hproblems : s.problems Filter.Registry.builtin.names = [] := by
    rw [names_builtin]
    decide +kernel
  obtain ⟨g, hbuilt, -⟩ := build_filtered hproblems fun _ => 0
  have hr : Tended (create s g ⟨true, .empty⟩ "7")
      ((create s g ⟨true, .empty⟩ "7").startChore (.checkup (.begin g.round))) :=
    Tended.start.startChore (List.suffix_refl _)
  obtain ⟨hround, hchores, -⟩ := probes_beside_requests hbuilt hr
  -- There is one instance, and so one probe.
  obtain ⟨i, rest, hp, hrest, hprobed⟩ := List.forall₂_cons_right_iff.mp hround
  obtain rfl := List.forall₂_nil_right_iff.mp hrest
  obtain ⟨p, rest, hg, rfl, hrest⟩ := List.map_eq_cons_iff.mp hprobed
  obtain rfl := List.map_eq_nil_iff.mp hrest
  replace hg : g.round = [p] := hg
  have hplace : (Instance.ofSpec spec).toOption.map (fun i =>
      (i.host, i.port, withoutTrailingSlashes i.url.path))
      = some ("[::1]", 81, "/base".toList) := by
    decide +kernel
  have haim : ((Instance.ofSpec spec).toOption.bind (probeTarget? · "/health")).map (fun t =>
      (t.scheme, String.ofList t.host, probePort t, t.pathAndQuery))
      = some (some probeScheme, "[::1]", 81, "/base/health".toList) := by
    decide +kernel
  rw [show Instance.ofSpec spec = _ from hp] at hplace haim
  simp only [Except.toOption, Option.map_some, Option.some.injEq, Prod.mk.injEq] at hplace
  simp only [Except.toOption, Option.bind_some] at haim
  obtain ⟨hhost, hport, hbase⟩ := hplace
  obtain ⟨t, ht, haims⟩ := Option.map_eq_some_iff.mp haim
  simp only [Prod.mk.injEq] at haims
  obtain ⟨hscheme, hhost', hport', hwanted⟩ := haims
  have hhome : AtHome p.probed "/health" := by
    have hprobed : probeTarget? p.probed "/health" = some t := (probeTarget?_of_url rfl).trans ht
    refine ⟨t, hprobed, hscheme, hhost'.trans hhost.symm, hport'.trans hport.symm, ?_⟩
    rw [hwanted, hbase]
    rfl
  obtain ⟨hiff, hasks⟩ := (hchores 0 (.checkup (.begin g.round)) (.begin g.round)
    (List.mem_singleton.mpr rfl) rfl).2 p [] (congrArg Checkup.begin hg)
  have hjoins := hiff.mp hhome
  have hasked := hasks hjoins
  have hwhole : String.ofList ("/base".toList ++ s.healthCheck.path.toList) = "/base/health" := by
    decide +kernel
  rw [hhost, hport, hbase, hwhole] at hasked
  exact ⟨g, p, hbuilt, hg, hp, hjoins, hasked⟩

/-- Three settings whose probes go astray, though nothing is wrong with them. A path without a slash
makes the port of the URL illegible, and the probe goes to the default port; a path that looks like
a port is one; and behind a query the path is part of that. -/
theorem probes_astray :
    let s (url path : String) : Settings :=
      { healthCheck := { path }
        routes := [{ id := "a", path := "/a", instances := [{ serviceId := "web", url }] }] }
    let aims (g : Gateway) : List (Nat × Option (Nat × String)) := g.round.map fun p =>
      (p.probed.port, (probeTarget? p.probed g.healthCheck.path).map fun t =>
        (probePort t, String.ofList t.pathAndQuery))
    (∃ g, build (s "http://[::1]:81" "health") .builtin (fun _ => 0) = .ok g ∧
      aims g = [(81, some (80, "/"))]) ∧
    (∃ g, build (s "http://[::1]" ":82/health") .builtin (fun _ => 0) = .ok g ∧
      aims g = [(80, some (82, "/health"))]) ∧
    ∃ g, build (s "http://[::1]:81/base?x" "/health") .builtin (fun _ => 0) = .ok g ∧
      aims g = [(81, some (81, "/base?x/health"))] := by
  intro s aims
  have hbuilds : ∀ (url path : String) (aim : List (Nat × Option (Nat × String))),
      (s url path).problems Filter.builtinNames = [] →
      (Gateway.ofSettings (s url path) .builtin fun _ => 0).toOption.map aims = some aim →
      ∃ g, build (s url path) .builtin (fun _ => 0) = .ok g ∧ aims g = aim := by
    intro url path aim hproblems haims
    rw [← names_builtin] at hproblems
    obtain ⟨g, hbuilt, -⟩ := build_filtered hproblems fun _ => 0
    rw [(ofSettings_of_build hbuilt).2] at haims
    exact ⟨g, hbuilt, Option.some.inj haims⟩
  exact ⟨hbuilds _ _ _ (by decide +kernel) (by decide +kernel),
    hbuilds _ _ _ (by decide +kernel) (by decide +kernel),
    hbuilds _ _ _ (by decide +kernel) (by decide +kernel)⟩

end Lifecycle

end HttpGateway
