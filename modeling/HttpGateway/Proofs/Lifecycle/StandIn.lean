/-
What a client gets where a service fails.

* `find_ofSpecs` — of the responses that are set for a service the last one counts.
* **Undisturbed** — what becomes of a gateway as long as nobody changes by hand what stands in for a
  service.
* **Declared** — what is answered where a response is set: its status, its body, and its type if
  that can be the value of a field. **DeclaredSent** — what the client gets of it: no body where the
  request or the status wants none, and no interim status.
* `declared_served` — whenever the breaker of a service rejects a call, or permits it and all
  attempts have failed, the client gets the last response that is set for the service.
* `declared_not_sent` — a type that is not the value of a field is accepted, and another one goes out
  in its place. So are statuses that leave no room for a body, and interim ones.

Nothing that goes on by itself touches what is set, so it is enough to follow a request from the
moment at which the breaker is asked to its last turn.
-/
import HttpGateway.Proofs.Lifecycle.Tokens
import Mathlib.Data.List.Induction

namespace HttpGateway

open HttpGateway.Filter
open Forward Http Request Route Settings Simulation

/-! ### What is set -/

/-- Of the responses that are set for a service the last one counts. -/
theorem Fallbacks.find_ofSpecs (specs : List FallbackSpec) (service : String) :
    (Fallbacks.ofSpecs specs).find service
      = ((specs.filter (·.serviceId = service)).getLast?).map .ofSpec := by
  induction specs using List.reverseRecOn with
  | nil => rfl
  | append_singleton specs spec ih =>
    unfold Fallbacks.ofSpecs at ih ⊢
    rw [List.foldl_append, List.foldl_cons, List.foldl_nil, Fallbacks.register, List.filter_append]
    by_cases h : spec.serviceId = service
    · subst h
      simp
    · rw [Keyed.find_set_other _ h, ih]
      simp [h]

/-- The status that is set is that of the response, if nothing is wrong with it. -/
theorem Settings.status_of_problems {s : Settings} {known : List String}
    (h : s.problems known = []) {spec : FallbackSpec} (hspec : spec ∈ s.fallbacks) :
    (Fallback.ofSpec spec).status.code = spec.status := by
  unfold problems at h
  obtain ⟨name, hname⟩ := eachProblem_eq_nil (List.append_eq_nil_iff.mp h).2 spec hspec
  obtain ⟨status, hstatus⟩ :=
    Option.isSome_iff_exists.mp (Option.isNone_eq_false_iff.mp (problemIf_eq_nil.mp hname))
  unfold Fallback.ofSpec
  rw [hstatus]
  exact Status.ofCode?_eq_some.mp hstatus

namespace Request

theorem getAll_withDefault (h : Fields) {name other : String} (v : Option FieldValue)
    (hne : name ≠ other) : (withDefault h other v).getAll name = h.getAll name := by
  unfold withDefault
  split
  · split
    · rfl
    · exact Fields.getAll_set_other h (Ne.symm hne) _
  · rfl

theorem status_outgoing (incoming : Incoming) (answer : Response) :
    (outgoing incoming answer).status = answer.status := by
  unfold outgoing
  split <;> rfl

/-- A response has the identification of its request, and its length. Other fields are as they
were. -/
theorem getAll_outgoing (incoming : Incoming) (answer : Response) {name : String}
    (hid : name ≠ idField) (hlength : name ≠ "content-length") :
    (outgoing incoming answer).fields.getAll name = answer.fields.getAll name := by
  unfold outgoing
  split
  · exact getAll_withDefault _ _ hid
  · exact (getAll_withDefault _ _ hlength).trans (getAll_withDefault _ _ hid)

/-- A body is left out only where the connection would not send one either. -/
theorem body_outgoing {incoming : Incoming} {answer : Response}
    (h : ¬ Bodiless incoming.method answer.status) :
    (outgoing incoming answer).body = answer.body := by
  have hhead : incoming.method ≠ "HEAD" := fun hhead => h (.inl hhead)
  have hconnect : ¬ (incoming.method = "CONNECT" ∧ answer.status.isSuccess = true) :=
    fun hconnect => h (.inr (.inr (.inr (.inr hconnect))))
  unfold outgoing
  rw [if_neg hconnect]
  exact if_neg (by simpa using hhead)

/-- What is answered where a response is set: its status, its body, and its type, or that of bytes
where it cannot be the value of a field. -/
structure Declared (spec : FallbackSpec) (response : Response) : Prop where
  status : response.status.code = spec.status
  contentType : response.fields.getAll "content-type"
    = [(FieldValue.ofText? spec.contentType).getD (FieldValue.ofAscii "application/octet-stream")]
  body : response.body = spec.body.toUTF8

theorem declared_response {spec : FallbackSpec}
    (h : (Fallback.ofSpec spec).status.code = spec.status) :
    Declared spec (Fallback.ofSpec spec).response :=
  ⟨h, Fields.getAll_set_self .., rfl⟩

/-- What a client gets of the answer to its request where a response is set. It gets all of it,
unless there is no body with this method or status. An interim status is no answer, and the server
says so. -/
structure DeclaredSent (spec : FallbackSpec) (method : String) (status : Status)
    (sent : Response) : Prop where
  whole : ¬ Bodiless method status → Declared spec sent
  bodiless : Bodiless method status → status.isInterim = false →
    Declared { spec with body := "" } sent
  interim : status.isInterim = true → sent = ⟨.internalServerError, .empty, emptyBody⟩

/-- Statuses that are no answer have no body. -/
theorem bodiless_of_isInterim (method : String) {status : Status} (h : status.isInterim = true) :
    Bodiless method status := by
  unfold Status.isInterim at h
  rw [Bool.and_eq_true, beq_iff_eq] at h
  exact .inr (.inl h.1)

theorem Declared.sent {spec : FallbackSpec} {answer : Response} (h : Declared spec answer)
    (incoming : Incoming) :
    DeclaredSent spec incoming.method answer.status (delivered incoming answer) := by
  have htype : (outgoing incoming answer).fields.getAll "content-type" = _ :=
    (getAll_outgoing incoming answer (by decide) (by decide)).trans h.contentType
  unfold delivered Response.sent
  rw [status_outgoing]
  refine ⟨fun hwhole => ?_, fun hbodiless hfinal => ?_, fun hinterim => if_pos hinterim⟩
  · have hfinal : ¬ answer.status.isInterim = true :=
      fun hinterim => hwhole (bodiless_of_isInterim _ hinterim)
    rw [if_neg hfinal, if_neg hwhole]
    exact ⟨by rw [status_outgoing, h.status], htype, (body_outgoing hwhole).trans h.body⟩
  · rw [if_neg (by simp [hfinal]), if_pos hbodiless]
    exact ⟨h.status, htype, rfl⟩

end Request

namespace Simulation.GatewayRun

variable {r r' r₀ : GatewayRun} {request visit : Nat} {incoming : Incoming} {body : ByteArray}
  {service : String} {spec : FallbackSpec}

/-! ### A gateway that is left alone -/

/-- The same filters are registered, and the same responses. -/
structure SetAlike (r r' : GatewayRun) : Prop where
  filters : r'.gateway.filters = r.gateway.filters
  fallbacks : r'.gateway.fallbacks = r.gateway.fallbacks

theorem Intact.setAlike (h : Intact r r') : SetAlike r r' := ⟨h.filters, h.fallbacks⟩

theorem setAlike_proceed (h : r.proceed = some r') : SetAlike r r' := by
  rcases proceed_cases h with ⟨request, f, -, -, rfl⟩ | ⟨n, c, -, rfl⟩
  · exact (intact_goOn r request f).setAlike
  · obtain ⟨routes, metrics, pools, network, probeLines, chores, hattend, -, -⟩ :=
      attend_frame r n c
    rw [hattend]
    exact ⟨rfl, rfl⟩

/-- What becomes of a gateway: requests come in, all goes on that can, and whatever else there is
that leaves alone the filters that are registered and what stands in for a service. -/
inductive Undisturbed (service : String) (r₀ : GatewayRun) : GatewayRun → Prop
  | start : Undisturbed service r₀ r₀
  | comes {r : GatewayRun} (incoming : Incoming) :
      Undisturbed service r₀ r → Undisturbed service r₀ (r.begin incoming).2
  | proceeds {r r' : GatewayRun} :
      Undisturbed service r₀ r → r.proceed = some r' → Undisturbed service r₀ r'
  | aside {r r' : GatewayRun} : Undisturbed service r₀ r →
      r'.gateway.filters = r.gateway.filters →
      r'.gateway.fallbacks.find service = r.gateway.fallbacks.find service →
      Undisturbed service r₀ r'

/-- The filters are those of the start, and so is what stands in for the service. -/
theorem Undisturbed.kept (h : Undisturbed service r₀ r) :
    r.gateway.filters = r₀.gateway.filters ∧
      r.gateway.fallbacks.find service = r₀.gateway.fallbacks.find service := by
  induction h with
  | start => exact ⟨rfl, rfl⟩
  | @comes r incoming _ ih =>
    have hset := (intact_begin r incoming).setAlike
    exact ⟨hset.filters.trans ih.1, (congrArg (·.find service) hset.fallbacks).trans ih.2⟩
  | proceeds _ hr' ih =>
    have hset := setAlike_proceed hr'
    exact ⟨hset.filters.trans ih.1, (congrArg (·.find service) hset.fallbacks).trans ih.2⟩
  | aside _ hfilters hfind ih => exact ⟨hfilters.trans ih.1, hfind.trans ih.2⟩

/-! ### Rejected and failed calls -/

/-- The filters that are always there put nothing in the slot of a request. -/
theorem slot_of_addressed {g g' : Gateway} {now : Instant} {c₀ c : Context} {route : Route}
    {i : Route.Instance} {outbound : Outbound} (hfilters : g.filters = .builtin)
    (h : g.Addressed now c₀ route i c outbound g') : c.slot = c₀.slot := by
  cases h with
  | intro hrouted _ _ =>
    cases hrouted with
    | intro hglobal _ hroute =>
      rw [hfilters] at hglobal hroute
      obtain ⟨_, rfl⟩ := hglobal.builtin
      obtain ⟨_, rfl⟩ := hroute.builtin
      rfl

/-- The request is answered with a response that is set, and its client gets this answer if it is
still there. -/
def GetsDeclared (spec : FallbackSpec) (r : GatewayRun) (request visit : Nat) (incoming : Incoming)
    (r' : GatewayRun) : Prop :=
  ∀ v, r.desk.visits.find visit = some v →
    if v.clientGone then r'.responses = r.responses
    else ∃ answer, Declared spec answer ∧
      r'.responses.find request = some (r.now, outgoing incoming answer) ∧
      DeclaredSent spec incoming.method answer.status (delivered incoming answer)

theorem Answered.getsDeclared {c : Context} {answer : Response}
    (h : Answered r request visit incoming c answer r') (hslot : c.slot = .fresh)
    (hdeclared : Declared spec answer) :
    GetsDeclared spec r request visit incoming r' := by
  intro v hv
  have hresponses := h hslot v hv
  cases hgone : v.clientGone with
  | true => rw [if_pos rfl, hresponses, hgone, if_pos rfl]
  | false =>
    rw [hgone] at hresponses
    refine ⟨answer, hdeclared, ?_, hdeclared.sent incoming⟩
    rw [hresponses]
    exact Keyed.find_set_self ..

/-- What stands in for a service that has a response of its own. -/
theorem answer_of_find {fallbacks : Fallbacks} {reason : String} {fallback : Fallback}
    (h : fallbacks.find service = some fallback) :
    fallbacks.answer service reason = fallback.response := by
  unfold Fallbacks.answer
  rw [h]

end Simulation.GatewayRun

namespace Lifecycle

open Simulation.GatewayRun

variable {s : Settings} {g : Gateway} {jitter : Nat → Nat} {service : String} {spec : FallbackSpec}

/-- A gateway that is built has the filters that are always there, and the last response that is
set for a service stands in for it. -/
theorem fallback_of_build (hbuilt : build s .builtin jitter = .ok g)
    (hspec : (s.fallbacks.filter (·.serviceId = service)).getLast? = some spec) :
    g.filters = .builtin ∧ g.fallbacks.find service = some (.ofSpec spec) ∧
      (Fallback.ofSpec spec).status.code = spec.status := by
  obtain ⟨hproblems, hg⟩ := ofSettings_of_build hbuilt
  obtain ⟨hfilters, hfallbacks, -, -⟩ := Gateway.builtFrom_of_ofSettings hg
  have hmem := List.mem_of_mem_filter (List.mem_of_getLast? hspec)
  refine ⟨hfilters, ?_, status_of_problems hproblems hmem⟩
  rw [hfallbacks, Fallbacks.find_ofSpecs, hspec, Option.map_some]

/-- **What is set is served.** A request comes to the instance of a resilient route whose service
has responses that are set, at a gateway where nobody has changed them by hand. If the breaker
rejects the call, or permits it and all attempts have failed, for whatever reason and whatever else
goes on meanwhile, the answer is the last of these responses: its status, its body, and its type if
that can be the value of a field. The client gets it, the body unless there is none with the method
or the status, and anything but an interim status. -/
theorem declared_served (hbuilt : build s .builtin jitter = .ok g)
    (hspec : (s.fallbacks.filter (·.serviceId = service)).getLast? = some spec)
    {network : Network} {madeId : String} {r : GatewayRun}
    (hr : Undisturbed service (create s g network madeId) r) {incoming : Incoming}
    {body : ByteArray} {route : Route} {i : Route.Instance} {c : Context} {outbound : Outbound}
    {g' : Gateway}
    (haddressed : r.gateway.Addressed r.now (incoming.context r.madeId body) route i c outbound g')
    (hresilient : route.resilient = true) (hservice : i.serviceId = service)
    (request visit : Nat) :
    let asked := r.gateway.breakers.acquire service r.now
    let r' := r.run request visit incoming body
    (∀ reason, asked.1 = .error reason → GetsDeclared spec r request visit incoming r') ∧
    ∀ permit, asked.1 = .ok permit →
      let r₀ : GatewayRun :=
        { r with gateway := g'.withBreakers service asked.2, desk := r.desk.start visit }
      let f₀ : Flight := ⟨visit, incoming,
        ⟨{ c with forwarded := true }, i, outbound, some permit, r.now⟩, 0, .pausing r.now⟩
      r' = r₀.goOn request f₀ ∧
      ∀ last earlier after, Journey request r₀ f₀ (last :: earlier) after →
        Undisturbed service (create s g network madeId) last.run →
        after.flights.find request = none → ∀ e, last.verdict? = some (.error e) →
          GetsDeclared spec last.run request visit incoming (last.after request) := by
  intro asked r'
  obtain ⟨hfilters, hfallback, hstatus⟩ := fallback_of_build hbuilt hspec
  have hslot : c.slot = .fresh := slot_of_addressed (hr.kept.1.trans hfilters) haddressed
  have hanswer : ∀ {r : GatewayRun}, Undisturbed service (create s g network madeId) r →
      ∀ reason, Declared spec (r.gateway.fallbacks.answer service reason) := fun hr reason => by
    rw [answer_of_find (hr.kept.2.trans hfallback)]
    exact declared_response hstatus
  have hdispatch := haddressed.dispatch
  obtain ⟨memory, balancers, rfl⟩ := haddressed.gateway
  rw [hresilient] at hdispatch
  rcases Gateway.permit_cases { r.gateway with memory, balancers } r.now c true i outbound with
    ⟨hplain, -⟩ | ⟨-, reason, hacquire, hpermit⟩ | ⟨-, permit, breakers, hacquire, hpermit⟩
  · exact absurd hplain (by simp)
  · -- The breaker rejects the call.
    rw [hservice] at hacquire hpermit
    have hasked : asked = (.error reason, r.gateway.breakers) := hacquire
    refine ⟨fun _ _ => ?_, fun permit hok => by simp [hasked] at hok⟩
    rw [show r' = _ from run_notPermitted (hdispatch.trans hpermit)]
    exact (answered_finish _ request visit incoming c _).of_start.getsDeclared hslot (hanswer hr _)
  · -- It permits the call, and what the last turn comes to decides.
    rw [hservice] at hacquire hpermit
    have hasked : asked = (.ok permit, breakers) := hacquire
    refine ⟨fun reason herror => by simp [hasked] at herror, fun permit' hok => ?_⟩
    obtain rfl : permit = permit' := by simpa [hasked] using hok
    rw [hasked]
    intro r₀ f₀
    refine ⟨run_forwarded (hdispatch.trans hpermit), ?_⟩
    intro last earlier after hjourney hlast hgone e hverdict
    rcases hjourney.underWay_or_concluded rfl rfl with
      ⟨f, hfind, -⟩ | ⟨-, last', earlier', outcome, hturns, hconcluded⟩
    · simp [hgone] at hfind
    · obtain ⟨rfl, rfl⟩ := List.cons.inj hturns
      obtain rfl : .error e = outcome := Option.some.inj (hverdict.symm.trans hconcluded.verdict)
      have hanswered := (hconcluded.recorded rfl rfl hjourney).answered
      rw [hservice] at hanswered
      exact hanswered.getsDeclared hslot (hanswer hlast _)

/-- Nobody listens at the only instance of a service with two responses that are set. The attempt
fails, and the client gets the last one of them. -/
theorem declared_served_unreachable :
    let web (status : Nat) (body : String) : FallbackSpec :=
      { serviceId := "web", status, body, contentType := "text/plain" }
    let s : Settings :=
      { routes := [{ id := "a", path := "/a", resilient := some true
                     instances := [{ serviceId := "web", url := "http://[::1]:81" }] }]
        fallbacks := [web 200 "earlier", web 203 "later"] }
    let incoming : Incoming :=
      ⟨"GET", ⟨none, none, "/a".toList, none⟩, .empty, .ok emptyBody, ⟨.v4 [127, 0, 0, 1], 9⟩⟩
    ∃ (g : Gateway) (last : Turn) (answer : Response), build s .builtin (fun _ => 0) = .ok g ∧
      Undisturbed "web" (create s g ⟨true, .empty⟩ "7") last.run ∧
      (∃ e, last.verdict? = some (.error e)) ∧
      (last.after 0).responses.find 0 = some (last.run.now, outgoing incoming answer) ∧
      Declared (web 203 "later") (delivered incoming answer) ∧
      (delivered incoming answer).fields.getAll "content-type"
        = [FieldValue.ofAscii "text/plain"] := by
  intro web s incoming
  have hproblems : s.problems Filter.Registry.builtin.names = [] := by
    rw [names_builtin]
    decide +kernel
  have hspec : (s.fallbacks.filter (·.serviceId = "web")).getLast? = some (web 203 "later") := rfl
  obtain ⟨g, hbuilt, -⟩ := build_filtered hproblems fun _ => 0
  let start (g : Gateway) : GatewayRun :=
    { create s g ⟨true, .empty⟩ "7" with desk := (Desk.opened 1).arrive.2 }
  -- What makes the attempt one of the service that fails, as one test that can be run.
  let fails (g : Gateway) : Bool :=
    match (start g).gateway.dispatch (start g).now
        (incoming.context (start g).madeId emptyBody) with
    | (.forwarded p, g') =>
      let r₀ : GatewayRun := { start g with gateway := g', desk := (start g).desk.start 0 }
      let f₀ : Flight := ⟨0, incoming, p, 0, .pausing (start g).now⟩
      p.permit.isSome && p.chosen.serviceId == "web" && ((r₀.goOn 0 f₀).flights.find 0).isNone
        && (r₀.desk.visits.find 0).map (·.clientGone) == some false
        && (r₀.verdict? f₀).map (·.isOk) == some false
    | _ => false
  have hfails : (Gateway.ofSettings s .builtin fun _ => 0).toOption.map fails = some true := by
    decide +kernel
  rw [(ofSettings_of_build hbuilt).2] at hfails
  replace hfails : fails g = true := Option.some.inj hfails
  unfold fails at hfails
  split at hfails
  · next p g' hdispatch =>
    simp only [Bool.and_eq_true, beq_iff_eq] at hfails
    obtain ⟨⟨⟨⟨hpermit, hservice⟩, hgone⟩, hpresent⟩, hverdict⟩ := hfails
    obtain ⟨permit, hp⟩ := Option.isSome_iff_exists.mp hpermit
    obtain ⟨route, i, c, outbound, g'', breakers, haddressed, hresilient, hacquire, rfl, rfl⟩ :=
      Gateway.passage_of_forwarded hdispatch hp
    dsimp only at hservice
    have hstart : Undisturbed "web" (create s g ⟨true, .empty⟩ "7") (start g) :=
      Undisturbed.start.aside rfl rfl
    rw [hservice] at hacquire hgone hverdict
    obtain ⟨memory, balancers, rfl⟩ := haddressed.gateway
    obtain ⟨visit, hvisit, hthere⟩ := Option.map_eq_some_iff.mp hpresent
    obtain ⟨outcome, houtcome, hfailed⟩ := Option.map_eq_some_iff.mp hverdict
    cases outcome with
    | ok response => cases hfailed
    | error e =>
      have hserved := ((declared_served hbuilt hspec hstart haddressed hresilient hservice 0 0).2
        permit (congrArg Prod.fst hacquire)).2
      rw [hacquire] at hserved
      have hlast := hserved _ [] _ .first (hstart.aside rfl rfl)
        (Option.isNone_iff_eq_none.mp hgone) e houtcome visit hvisit
      rw [hthere] at hlast
      obtain ⟨answer, hanswer, hresponse, hsent⟩ := hlast
      have hbody : ¬ Bodiless "GET" answer.status := by
        simp [Bodiless, Status.isSuccess, hanswer.status, web]
      have hdeclared : Declared (web 203 "later") (delivered incoming answer) := hsent.whole hbody
      have htype : FieldValue.ofText? "text/plain" = some (FieldValue.ofAscii "text/plain") := by
        decide +kernel
      refine ⟨g, _, answer, hbuilt, ?_, ?_, hresponse, hdeclared, ?_⟩
      · exact hstart.aside rfl rfl
      · exact ⟨e, houtcome⟩
      · rw [hdeclared.contentType, htype, Option.getD_some]
  · simp at hfails

/-- Three responses that are accepted, and that no client gets as they are set. A type that ends in a
line feed cannot be the value of a field, so what goes out is the type of bytes. There is no body with
204, and 103 is no answer. -/
theorem declared_not_sent :
    let later (status : Nat) (contentType : String) : FallbackSpec :=
      { serviceId := "web", status, body := "later", contentType }
    let s (spec : FallbackSpec) : Settings :=
      { routes := [{ id := "a", path := "/a", resilient := some true
                     instances := [{ serviceId := "web", url := "http://[::1]:81" }] }]
        fallbacks := [spec] }
    let incoming : Incoming :=
      ⟨"GET", ⟨none, none, "/a".toList, none⟩, .empty, .ok emptyBody, ⟨.v4 [127, 0, 0, 1], 9⟩⟩
    let gets (spec : FallbackSpec) (sent : Nat × ByteArray × List FieldValue) : Prop :=
      ∃ (g : Gateway) (response : Response), build (s spec) .builtin (fun _ => 0) = .ok g ∧
        ((create (s spec) g ⟨true, .empty⟩ "7").serve incoming).1 = some response ∧
        let r := response.sent incoming.method
        (r.status.code, r.body, r.fields.getAll "content-type") = sent
    gets (later 203 "text/plain\n")
        (203, "later".toUTF8, [FieldValue.ofAscii "application/octet-stream"]) ∧
      gets (later 204 "text/plain") (204, emptyBody, [FieldValue.ofAscii "text/plain"]) ∧
      gets (later 103 "text/plain") (500, emptyBody, []) := by
  intro later s incoming gets
  -- The gateway is built, and what it then serves is one test that can be run.
  have hgets : ∀ spec sent, (s spec).problems Filter.Registry.builtin.names = [] →
      (Gateway.ofSettings (s spec) .builtin fun _ => 0).toOption.map (fun g =>
        ((create (s spec) g ⟨true, .empty⟩ "7").serve incoming).1.map fun response =>
          let r := response.sent incoming.method
          (r.status.code, r.body, r.fields.getAll "content-type")) = some (some sent) →
      gets spec sent := by
    intro spec sent hproblems hserved
    obtain ⟨g, hbuilt, -⟩ := build_filtered hproblems fun _ => 0
    rw [(ofSettings_of_build hbuilt).2] at hserved
    obtain ⟨response, hresponse, hsent⟩ := Option.map_eq_some_iff.mp (Option.some.inj hserved)
    exact ⟨g, response, hbuilt, hresponse, hsent⟩
  exact ⟨hgets _ _ (by rw [names_builtin]; decide +kernel) (by decide +kernel),
    hgets _ _ (by rw [names_builtin]; decide +kernel) (by decide +kernel),
    hgets _ _ (by rw [names_builtin]; decide +kernel) (by decide +kernel)⟩

end Lifecycle

end HttpGateway
