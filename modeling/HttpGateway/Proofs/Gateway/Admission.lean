/-
The desk of a gateway at work.

* **Attends** — the desk of a gateway is one to which events lead, and the requests on their way are
  visits of their own whose bodies have been read.
* `Attends.goOn`, `Attends.begin`, `Attends.leaves` — requests that come in, go on, or lose their
  clients keep that.
* **Open**, `Open.attends` — so it is from the start on, whatever comes in and however all goes on.
* `admitted_on_their_way` — there are never more requests in hand, and never more on their way, than
  may be in hand at a time.
-/
import HttpGateway.Proofs.Gateway.Outcome
import HttpGateway.Proofs.Request.Session

namespace HttpGateway

open Forward Http Request

namespace Simulation.GatewayRun

variable {limit most : Nat} {r r' r₀ : GatewayRun} {request visit : Nat} {f : Flight}
  {incoming : Incoming} {body : ByteArray}

/-! ### Desks that are attended -/

/-- Whether a visit is in hand and its body has been read. -/
def Runs (d : Desk) (visit : Nat) : Prop :=
  ∃ v, d.visits.find visit = some v ∧ v.reading = false

/-- Whether a desk is one to which events lead. Nobody is answered there before the gateway is done
with the request, since both come about in one step. -/
def Led (limit most : Nat) (d : Desk) : Prop :=
  ∃ s, Request.Reached limit most s ∧ s.desk = d ∧ ∀ x ∈ s.log, x.event.isAnswer = false

theorem Led.sound {d : Desk} (h : Led limit most d) : d.Sound limit := by
  obtain ⟨s, hs, rfl, -⟩ := h
  exact hs.sound

theorem Led.event {d : Desk} {e : Event} (h : Led limit most d) (he : d.admits e = true)
    (hanswer : e.isAnswer = false) : Led limit most (e.effect most d).2 := by
  obtain ⟨s, hs, rfl, hnone⟩ := h
  have hanswered : ∀ n, s.answered n = false := fun n =>
    List.any_eq_false.mpr fun x hx => by simp [hnone x (List.mem_of_mem_filter hx)]
  have hadmits : s.admits e = true := by
    rw [Session.admits, he]
    cases e.visit? <;> simp [hanswered]
  exact ⟨s.step most e, hs.step hadmits, rfl, List.forall_mem_cons.mpr ⟨hanswer, hnone⟩⟩

/-- The requests on their way are visits of their own, and all visits come about by events. -/
structure Attends (limit most : Nat) (r : GatewayRun) : Prop where
  longest : r.gateway.mostBytes = most
  led : Led limit most r.desk
  keys : r.flights.keys.Nodup
  running : ∀ k f, r.flights.find k = some f → Runs r.desk f.visit
  apart : ∀ k₁ k₂ f₁ f₂, r.flights.find k₁ = some f₁ → r.flights.find k₂ = some f₂ →
    f₁.visit = f₂.visit → k₁ = k₂

/-- Whether a visit is that of a request and of no other one. -/
def Owns (r : GatewayRun) (request visit : Nat) : Prop :=
  ∀ k f, r.flights.find k = some f → f.visit = visit → k = request

theorem Attends.congr (h : Attends limit most r)
    (hmost : r'.gateway.mostBytes = r.gateway.mostBytes) (hdesk : r'.desk = r.desk)
    (hflights : r'.flights = r.flights) : Attends limit most r' where
  longest := hmost.trans h.longest
  led := hdesk ▸ h.led
  keys := hflights ▸ h.keys
  running := by
    rw [hdesk, hflights]
    exact h.running
  apart := by
    rw [hflights]
    exact h.apart

theorem Attends.carried (h : Attends limit most r) (hr : Carried r r') :
    Attends limit most r' := by
  cases hr
  exact h.congr rfl rfl rfl

/-- A request begins to wait for something, or goes on to wait. -/
theorem Attends.enter (h : Attends limit most r) (hruns : Runs r.desk f.visit)
    (howns : Owns r request f.visit) (phase : Phase) :
    Attends limit most (r.enter request f phase) where
  longest := h.longest
  led := h.led
  keys := Keyed.nodup_set h.keys ..
  running k g hg := by
    by_cases hk : request = k
    · subst hk
      rw [show (r.enter request f phase).flights.find request = some { f with phase } from
        Keyed.find_set_self ..] at hg
      rw [← Option.some.inj hg]
      exact hruns
    · exact h.running k g ((Keyed.find_set_other _ hk _).symm.trans hg)
  apart k₁ k₂ f₁ f₂ h₁ h₂ hvisit := by
    have hfind : ∀ k g, (r.enter request f phase).flights.find k = some g →
        k = request ∧ g.visit = f.visit ∨ k ≠ request ∧ r.flights.find k = some g := by
      intro k g hg
      by_cases hk : request = k
      · subst hk
        rw [show (r.enter request f phase).flights.find request = some { f with phase } from
          Keyed.find_set_self ..] at hg
        exact .inl ⟨rfl, (Option.some.inj hg) ▸ rfl⟩
      · exact .inr ⟨Ne.symm hk, (Keyed.find_set_other _ hk _).symm.trans hg⟩
    rcases hfind k₁ f₁ h₁ with ⟨rfl, hv₁⟩ | ⟨hne₁, hf₁⟩
    · rcases hfind k₂ f₂ h₂ with ⟨rfl, -⟩ | ⟨hne₂, hf₂⟩
      · rfl
      · exact absurd (howns k₂ f₂ hf₂ (hvisit.symm.trans hv₁)) hne₂
    · rcases hfind k₂ f₂ h₂ with ⟨rfl, hv₂⟩ | ⟨-, hf₂⟩
      · exact absurd (howns k₁ f₁ hf₁ (hvisit.trans hv₂)) hne₁
      · exact h.apart k₁ k₂ f₁ f₂ hf₁ hf₂ hvisit

/-- An event that is about none of the requests on their way. -/
theorem Attends.event (h : Attends limit most r) {e : Event} (he : r.desk.admits e = true)
    (hanswer : e.isAnswer = false)
    (hnone : ∀ k f, r.flights.find k = some f → e.visit? ≠ some f.visit) :
    Attends limit most { r with desk := (e.effect most r.desk).2 } where
  longest := h.longest
  led := h.led.event he hanswer
  keys := h.keys
  running k f hf := by
    obtain ⟨v, hv, hreading⟩ := h.running k f hf
    have hsound := h.led.sound
    refine ⟨v, ?_, hreading⟩
    have hold := hsound.known f.visit (Desk.holds_iff.mpr ⟨v, hv⟩)
    exact (Event.effect_other he hsound (hnone k f hf) hold).trans hv
  apart := h.apart

/-- A request is not on its way any more. -/
theorem Attends.erase (h : Attends limit most r) (request : Nat) :
    Attends limit most { r with flights := r.flights.erase request } := by
  have hfind : ∀ k f, (r.flights.erase request).find k = some f →
      request ≠ k ∧ r.flights.find k = some f := by
    intro k f hf
    have hk : request ≠ k := by
      rintro rfl
      rw [Keyed.find_erase_self] at hf
      cases hf
    exact ⟨hk, (Keyed.find_erase_other _ hk).symm.trans hf⟩
  exact {
    longest := h.longest
    led := h.led
    keys := Keyed.nodup_erase h.keys request
    running := fun k f hf => h.running k f (hfind k f hf).2
    apart := fun k₁ k₂ f₁ f₂ h₁ h₂ => h.apart k₁ k₂ f₁ f₂ (hfind k₁ f₁ h₁).2 (hfind k₂ f₂ h₂).2 }

theorem desk_respond (r : GatewayRun) (request : Nat) (incoming : Incoming)
    (d : Option Response × Desk) : (r.respond request incoming d).desk = d.2 := by
  obtain ⟨_ | answer, desk⟩ := d <;> rfl

/-- The pipeline is done with a request that is not on its way. -/
theorem Attends.finish (h : Attends limit most r) (hruns : Runs r.desk visit)
    (hnone : ∀ k f, r.flights.find k = some f → f.visit ≠ visit) (o : Option Response)
    (hmost : r'.gateway.mostBytes = r.gateway.mostBytes)
    (hdesk : r'.desk = (r.desk.finish visit o).2) (hflights : r'.flights = r.flights) :
    Attends limit most r' := by
  obtain ⟨v, hv, hreading⟩ := hruns
  have he : r.desk.admits (.finish visit o) = true := by
    rw [Desk.admits, hv, Option.any_some, hreading]
    rfl
  refine Attends.congr (h.event he rfl ?_) hmost hdesk hflights
  intro k f hf heq
  exact hnone k f hf (Option.some.inj heq).symm

/-- The last attempt of a request is over. -/
theorem Attends.land (h : Attends limit most r) (hruns : Runs r.desk f.visit)
    (howns : Owns r request f.visit) (outcome : Except RequestError Response) :
    Attends limit most (r.land request f outcome) := by
  have hdesk : ∃ o, (r.land request f outcome).desk = (r.desk.finish f.visit o).2 := by
    unfold GatewayRun.land
    exact ⟨_, desk_respond ..⟩
  obtain ⟨o, hdesk⟩ := hdesk
  obtain ⟨breakers, metrics, desk, responses, hland⟩ := land_frame r request f outcome
  rw [hland] at hdesk ⊢
  refine (h.erase request).finish hruns ?_ o rfl hdesk rfl
  -- The request was the only one with this visit, and it is not on its way any more.
  intro k g hg hvisit
  have hk : request ≠ k := by
    rintro rfl
    rw [Keyed.find_erase_self] at hg
    cases hg
  exact hk (howns k g ((Keyed.find_erase_other _ hk).symm.trans hg) hvisit).symm

/-- A request goes on, or begins its way. -/
theorem Attends.goOn (h : Attends limit most r) (hruns : Runs r.desk f.visit)
    (howns : Owns r request f.visit) : Attends limit most (r.goOn request f) := by
  have hcarry : ∀ {r₁}, Carried r r₁ → Attends limit most r₁ ∧ Runs r₁.desk f.atWork.visit ∧
      Owns r₁ request f.atWork.visit := by
    intro r₁ hr₁
    refine ⟨h.carried hr₁, ?_⟩
    rw [(atWork_same f).1]
    cases hr₁
    exact ⟨hruns, howns⟩
  have hturned := goOn_turned r request f
  generalize r.verdict? f = verdict, r.goOn request f = r' at hturned
  cases hturned with
  | waits hr₁ =>
    obtain ⟨h₁, hruns₁, howns₁⟩ := hcarry hr₁
    exact h₁.enter hruns₁ howns₁ _
  | @ended r₁ outcome hr₁ =>
    obtain ⟨h₁, hruns₁, howns₁⟩ := hcarry hr₁
    rcases attemptOver_cases r₁ request f.atWork outcome with ⟨pause, -, hover⟩ | ⟨-, hover⟩
    · rw [hover]
      exact h₁.enter hruns₁ howns₁ _
    · rw [hover]
      exact h₁.land hruns₁ howns₁ outcome

/-- A request whose body has been read, and whose visit is not on its way. -/
theorem Attends.run (h : Attends limit most { r with desk := r.desk.start visit })
    (hruns : Runs (r.desk.start visit) visit)
    (hnone : ∀ k f, r.flights.find k = some f → f.visit ≠ visit) (request : Nat)
    (incoming : Incoming) (body : ByteArray) :
    Attends limit most (r.run request visit incoming body) := by
  obtain ⟨d, memory, balancers, breakers, metrics, hd⟩ :=
    r.gateway.dispatch_frame r.now (incoming.context r.madeId body)
  obtain ⟨g, hg⟩ : ∃ g, g = { r.gateway with memory, balancers, breakers, metrics } := ⟨_, rfl⟩
  rw [← hg] at hd
  have hmost : g.mostBytes = r.gateway.mostBytes := by rw [hg]
  -- Whatever is found, a response ends the visit.
  have hfinish : ∀ c answer, Attends limit most
      ({ r with gateway := g, desk := r.desk.start visit }.finish request visit incoming c
        answer) := by
    intro c answer
    have hdesk : ∃ o, ({ r with gateway := g, desk := r.desk.start visit }.finish request visit
        incoming c answer).desk = ((r.desk.start visit).finish visit o).2 := ⟨_, desk_respond ..⟩
    obtain ⟨o, hdesk⟩ := hdesk
    obtain ⟨metrics, desk, responses, heq⟩ := finish_frame
      { r with gateway := g, desk := r.desk.start visit } request visit incoming c answer
    rw [heq] at hdesk ⊢
    exact h.finish hruns hnone o hmost hdesk rfl
  cases d with
  | brokenDown =>
    obtain ⟨desk, responses, heq⟩ := respond_frame
      { r with gateway := g, desk := r.desk.start visit } request incoming
      ((r.desk.start visit).finish visit none)
    have hdesk := desk_respond { r with gateway := g, desk := r.desk.start visit } request incoming
      ((r.desk.start visit).finish visit none)
    rw [run_brokenDown hd]
    rw [heq] at hdesk ⊢
    exact h.finish hruns hnone none hmost hdesk rfl
  | failed c e =>
    rw [run_failed hd]
    exact hfinish c e.response
  | notPermitted c answer =>
    rw [run_notPermitted hd]
    exact hfinish c answer
  | forwarded p =>
    have h' : Attends limit most { r with gateway := g, desk := r.desk.start visit } :=
      h.congr hmost rfl rfl
    rw [run_forwarded hd]
    exact h'.goOn hruns fun k g hg hvisit => absurd hvisit (hnone k g hg)

/-- Somebody is answered, and the desk is left as it is said. -/
theorem Attends.respond {d : Option Response × Desk}
    (h : Attends limit most { r with desk := d.2 }) (request : Nat) (incoming : Incoming) :
    Attends limit most (r.respond request incoming d) := by
  obtain ⟨desk, responses, heq⟩ := respond_frame r request incoming d
  have hdesk := desk_respond r request incoming d
  rw [heq] at hdesk ⊢
  exact h.congr rfl hdesk rfl

theorem Attends.begin (h : Attends limit most r) (incoming : Incoming) :
    Attends limit most (r.begin incoming).2 := by
  obtain rfl := h.longest
  have hnext : Attends limit r.gateway.mostBytes { r with nextRequest := r.nextRequest + 1 } :=
    h.congr rfl rfl rfl
  have hsound := h.led.sound
  unfold GatewayRun.begin
  dsimp only
  split
  · exact Attends.respond (d := (some notHandled, r.desk)) hnext _ _
  rcases hsound.arrive with ⟨-, harrive⟩ | ⟨hroom, harrive⟩
  · rw [harrive]
    exact Attends.respond (d := (some RequestError.busy.response, r.desk)) hnext _ _
  rw [harrive]
  -- The request gets a place that none of the others on their way has.
  have hin : Attends limit r.gateway.mostBytes
      { r with nextRequest := r.nextRequest + 1, desk := r.desk.letIn } := by
    have heffect : (Event.arrive.effect r.gateway.mostBytes r.desk).2 = r.desk.letIn := by
      rw [Event.effect, harrive]
    have harrived := hnext.event (e := .arrive) rfl rfl fun _ _ _ => (Option.some_ne_none _).symm
    exact harrived.congr rfl heffect.symm rfl
  have hvisit : r.desk.letIn.visits.find r.desk.nextVisit = some ⟨true, false⟩ :=
    Keyed.find_set_self ..
  -- The visits of the others are in hand, and so have been numbered before.
  have hnone : ∀ k f, r.flights.find k = some f → f.visit ≠ r.desk.nextVisit := by
    intro k f hf heq
    obtain ⟨v, hv, -⟩ := h.running k f hf
    exact Nat.lt_irrefl _ (heq ▸ hsound.known f.visit (Desk.holds_iff.mpr ⟨v, hv⟩))
  have hread : ∀ incoming, Attends limit r.gateway.mostBytes { r with
      nextRequest := r.nextRequest + 1
      desk := ((Event.read r.desk.nextVisit incoming).effect r.gateway.mostBytes
        r.desk.letIn).2 } := by
    intro incoming
    have he : r.desk.letIn.admits (.read r.desk.nextVisit incoming) = true := by
      rw [Desk.admits, hvisit]
      rfl
    exact hin.event he rfl fun k f hf heq => hnone k f hf (Option.some.inj heq).symm
  have hafter := hread (incoming.identified r.madeId)
  dsimp only
  cases hbody : (incoming.identified r.madeId).bodyWithin r.gateway.mostBytes with
  | error e =>
    rw [Event.effect, hbody] at hafter
    exact Attends.respond (d := r.desk.letIn.turnBack r.desk.nextVisit e) hafter _ _
  | ok body =>
    rw [Event.effect, hbody] at hafter
    refine Attends.run (r := { r with nextRequest := r.nextRequest + 1, desk := r.desk.letIn })
      hafter ?_ hnone _ _ _
    exact ⟨⟨false, false⟩, find_visits_start hvisit, rfl⟩

theorem Attends.proceed (h : Attends limit most r) (hr' : r.proceed = some r') :
    Attends limit most r' := by
  rcases proceed_cases hr' with ⟨request, f, hmem, -, rfl⟩ | ⟨n, c, -, rfl⟩
  · have hf : r.flights.find request = some f := Keyed.findIn_of_mem h.keys hmem
    exact h.goOn (h.running request f hf) fun k g hg hvisit => h.apart k request g f hg hf hvisit
  · obtain ⟨routes, metrics, pools, network, probeLines, chores, hattend, -⟩ := attend_frame r n c
    rw [hattend]
    exact h.congr rfl rfl rfl

/-- A client leaves. If its request is on its way, it stays so. -/
theorem Attends.leaves (h : Attends limit most r) (hwaits : r.desk.waits visit = true) :
    Attends limit most { r with desk := r.desk.disconnect visit } where
  longest := h.longest
  led := h.led.event (e := .disconnect visit) hwaits rfl
  keys := h.keys
  running k f hf := by
    obtain ⟨v, hv, hreading⟩ := h.running k f hf
    by_cases hvisit : visit = f.visit
    · refine ⟨{ v with clientGone := true }, ?_, hreading⟩
      subst hvisit
      show (r.desk.disconnect f.visit).visits.find f.visit = _
      rw [Desk.disconnect, hv]
      dsimp only
      rw [hreading, if_neg Bool.false_ne_true]
      exact Keyed.find_set_self ..
    · have hsound := h.led.sound
      have hold := hsound.known f.visit (Desk.holds_iff.mpr ⟨v, hv⟩)
      have hother : ((Event.disconnect visit).effect most r.desk).2.visits.find f.visit =
          r.desk.visits.find f.visit :=
        Event.effect_other hwaits hsound (fun heq => hvisit (Option.some.inj heq)) hold
      exact ⟨v, hother.trans hv, hreading⟩
  apart := h.apart

/-! ### From the start on -/

/-- What becomes of a gateway that is open: requests come in, all goes on that can, clients leave,
and whatever else there is that concerns no request. -/
inductive Open (r₀ : GatewayRun) : GatewayRun → Prop
  | start : Open r₀ r₀
  | comes {r : GatewayRun} (incoming : Incoming) : Open r₀ r → Open r₀ (r.begin incoming).2
  | proceeds {r r' : GatewayRun} : Open r₀ r → r.proceed = some r' → Open r₀ r'
  | leaves {r : GatewayRun} {visit : Nat} : Open r₀ r → r.desk.waits visit = true →
      Open r₀ { r with desk := r.desk.disconnect visit }
  | aside {r r' : GatewayRun} : Open r₀ r → r'.gateway.mostBytes = r.gateway.mostBytes →
      r'.desk = r.desk → r'.flights = r.flights → Open r₀ r'

theorem Open.attends (h : Open r₀ r) (h₀ : Attends limit most r₀) : Attends limit most r := by
  induction h with
  | start => exact h₀
  | comes incoming _ ih => exact ih.begin incoming
  | proceeds _ hr' ih => exact ih.proceed hr'
  | leaves _ hwaits ih => exact ih.leaves hwaits
  | aside _ hmost hdesk hflights ih => exact ih.congr hmost hdesk hflights

theorem attends_create (s : Settings) (gateway : Gateway) (network : Network) (madeId : String) :
    Attends s.listener.maxInFlight gateway.mostBytes (create s gateway network madeId) where
  longest := rfl
  led := ⟨.start s.listener.maxInFlight, .start, rfl, by simp [Session.start]⟩
  keys := List.nodup_nil
  running _ _ hf := absurd hf (by simp [create])
  apart _ _ _ _ hf := absurd hf (by simp [create])

/-- Requests on their way to a backend are in hand. -/
theorem Attends.onTheirWay_le (h : Attends limit most r) :
    r.flights.keys.length ≤ r.desk.inHand := by
  have hfind : ∀ e ∈ r.flights.entries, r.flights.find e.1 = some e.2 := fun e he =>
    Keyed.findIn_of_mem h.keys he
  -- Different requests have different visits, and each of them is in hand.
  have hnodup : (r.flights.entries.map fun e => e.2.visit).Nodup := by
    refine (List.Nodup.of_map _ h.keys).map_on fun e₁ h₁ e₂ h₂ hvisit => ?_
    have hkey : e₁.1 = e₂.1 := h.apart _ _ _ _ (hfind e₁ h₁) (hfind e₂ h₂) hvisit
    have hsame := hfind e₂ h₂
    rw [← hkey, hfind e₁ h₁] at hsame
    exact Prod.ext hkey (Option.some.inj hsame)
  have hheld : ∀ n ∈ r.flights.entries.map fun e => e.2.visit,
      ∃ v, r.desk.visits.find n = some v ∧ (!v.reading) = true := by
    intro n hn
    obtain ⟨e, he, rfl⟩ := List.mem_map.mp hn
    obtain ⟨v, hv, hreading⟩ := h.running e.1 e.2 (hfind e he)
    exact ⟨v, hv, by rw [hreading]; rfl⟩
  have hle := Keyed.length_le_countP hnodup hheld
  rw [List.length_map] at hle
  rw [Keyed.keys, List.length_map]
  exact Nat.le_trans hle List.countP_le_length

/-- **Admission to a gateway at work.** Its desk is at any time one to which events lead, so that all
is known of it that is known of those; no more requests are on their way than are in hand, and no
more are in hand than may be. -/
theorem admitted_on_their_way (s : Settings) (gateway : Gateway) (network : Network)
    (madeId : String) (h : Open (create s gateway network madeId) r) :
    (∃ session, Request.Reached s.listener.maxInFlight gateway.mostBytes session ∧
      session.desk = r.desk) ∧
    r.flights.keys.length ≤ r.desk.inHand ∧ r.desk.inHand ≤ s.listener.maxInFlight := by
  have hattends := h.attends (attends_create s gateway network madeId)
  obtain ⟨session, hreached, hdesk, -⟩ := hattends.led
  exact ⟨⟨session, hreached, hdesk⟩, hattends.onTheirWay_le, hattends.led.sound.few⟩

end Simulation.GatewayRun

end HttpGateway
