/-
The requests of a gateway, as exchanges on the pools of the backends.

* **Serves** — the exchanges on the pool of a backend are those of the requests on their way to it,
  each of its own.
* `Serves.moved`, `Serves.elsewhere`, `Serves.aside` — a turn of a request to the backend keeps that,
  and so do a turn to another one and what is done while nobody goes on.
* **Hosts** — each backend of a gateway is served.
* **AtWork**, `AtWork.hosts` — so it is, whatever comes in and however all goes on.
* `Hosts.pool_reached` — what is known of a pool in whatever order it is used is known of the pools
  of a gateway at work.
* `Hosts.inUse_eq_zero` — while no request is on its way to a backend, no permit of its pool is in
  use.
-/
import HttpGateway.Proofs.Gateway.Journey
import HttpGateway.Proofs.Gateway.Sites

namespace HttpGateway.Simulation

open Forward Http Request

namespace GatewayRun

variable {x : Traffic} {r r' : GatewayRun} {request other : Nat} {f : Flight} {q : Pool}
  {before after : Place}

/-! ### Backends that are served -/

/-- A request is on its way to a backend and has come to a place there. -/
def At (r : GatewayRun) (request : Nat) (authority : String) (place : Place) : Prop :=
  ∃ f, r.flights.find request = some f ∧ f.backend = authority ∧ f.phase.place = place

/-- The exchanges on the pool of a backend are those of the requests on their way to it, each of its
own. -/
structure Serves (r : GatewayRun) (authority : String) (x : Traffic) : Prop where
  reached : Traffic.Reached r.gateway.pools.limits authority x
  pool : x.pool = r.poolOf authority
  stands : ∀ request t s, r.At request authority (some (t, s)) → x.Stands t s
  underWay : ∀ t ∈ x.underWay, ∃ request s, r.At request authority (some (t, s))
  apart : ∀ request₁ request₂ t s₁ s₂, r.At request₁ authority (some (t, s₁)) →
    r.At request₂ authority (some (t, s₂)) → request₁ = request₂

theorem at_congr (h : r'.flights = r.flights) {authority : String} :
    ∀ k place, r'.At k authority place ↔ r.At k authority place := fun k place => by
  rw [At, At, h]

/-- What is done to a pool while nobody comes there, goes on or goes. -/
theorem Serves.aside {authority : String} (h : r.Serves authority x)
    (hleads : Traffic.Leads r.gateway.pools.limits authority x none none q)
    (hpool : r'.poolOf authority = q)
    (hlimits : r'.gateway.pools.limits = r.gateway.pools.limits)
    (hat : ∀ k place, r'.At k authority place ↔ r.At k authority place) :
    ∃ y, r'.Serves authority y := by
  obtain ⟨y, hshifts, hq⟩ := hleads
  refine ⟨y, hlimits ▸ hshifts.reached, hq.trans hpool.symm, ?_, ?_, ?_⟩
  · exact fun k t s h' =>
      hshifts.others t s (by simp [Place.ticket?]) (h.stands k t s ((hat k _).mp h'))
  · intro t ht
    rcases hshifts.underWay t ht with hticket | ⟨hin, -⟩
    · simp [Place.ticket?] at hticket
    · obtain ⟨k, s, hk⟩ := h.underWay t hin
      exact ⟨k, s, (hat k _).mpr hk⟩
  · exact fun k₁ k₂ t s₁ s₂ h₁ h₂ => h.apart k₁ k₂ t s₁ s₂ ((hat _ _).mp h₁) ((hat _ _).mp h₂)

section

variable {authority : String} (hm : Moved r request authority q after r')

include hm

theorem Moved.at_other (hne : request ≠ other) {backend : String} {place : Place} :
    r'.At other backend place ↔ r.At other backend place := by
  rw [At, At, hm.others other hne]

theorem Moved.at_mine {backend : String} {place : Place} (h : r'.At request backend place) :
    backend = authority ∧ place = after := by
  obtain ⟨f, hf, rfl, rfl⟩ := h
  obtain ⟨hbackend, hplace, -⟩ := hm.mine f hf
  exact ⟨hbackend, hplace⟩

theorem Moved.at_after (h : after ≠ none) : r'.At request authority after := by
  obtain ⟨f, hf⟩ := hm.present h
  obtain ⟨hbackend, hplace, -⟩ := hm.mine f hf
  exact ⟨f, hf, hbackend, hplace⟩

/-- A turn at another backend. -/
theorem Serves.elsewhere {backend : String} (h : r.Serves backend x) (hne : authority ≠ backend)
    (hmine : ∀ f, r.flights.find request = some f → f.backend = authority) :
    ∃ y, r'.Serves backend y := by
  refine h.aside (Traffic.leads_nothing h.reached x.stands_none)
    ((hm.pools backend hne).trans h.pool.symm) hm.limits fun k place => ?_
  by_cases hk : request = k
  · subst hk
    refine iff_of_false (fun h' => hne (hm.at_mine h').1.symm) ?_
    rintro ⟨f, hf, hbackend, -⟩
    exact hne ((hmine f hf).symm.trans hbackend)
  · exact hm.at_other hk

/-- A turn at this backend. -/
theorem Serves.moved (h : r.Serves authority x)
    (hleads : Traffic.Leads r.gateway.pools.limits authority x before after q)
    (hbefore : ∀ t s, before = some (t, s) → r.At request authority before)
    (honly : ∀ place, r.At request authority place → place = before) :
    ∃ y, r'.Serves authority y := by
  obtain ⟨y, hshifts, hpool⟩ := hleads
  -- The ticket of the request is nobody else's, before the turn and after it.
  have hother : ∀ k t s, request ≠ k → r.At k authority (some (t, s)) →
      before.ticket? ≠ some t := by
    intro k t s hk hat hticket
    obtain ⟨s', hplace⟩ := Place.exists_of_ticket? hticket
    exact hk (h.apart request k t s' s (hplace ▸ hbefore t s' hplace) hat)
  have hafter : ∀ k t s s', request ≠ k → r.At k authority (some (t, s)) →
      after ≠ some (t, s') := by
    rintro k t s s' hk hat rfl
    rcases hshifts.own t rfl with hticket | hnot
    · exact hother k t s hk hat hticket
    · exact hnot s (h.stands k t s hat)
  refine ⟨y, hm.limits ▸ hshifts.reached, hpool.trans hm.pool.symm, fun k t s hat => ?_,
    fun t ht => ?_, fun k₁ k₂ t s₁ s₂ h₁ h₂ => ?_⟩
  · by_cases hk : request = k
    · subst hk
      exact hshifts.stands t s (hm.at_mine hat).2.symm
    · have hat' := (hm.at_other hk).mp hat
      exact hshifts.others t s (hother k t s hk hat') (h.stands k t s hat')
  · rcases hshifts.underWay t ht with hticket | ⟨hin, hticket⟩
    · obtain ⟨s, rfl⟩ := Place.exists_of_ticket? hticket
      exact ⟨request, s, hm.at_after (by simp)⟩
    · obtain ⟨k, s, hat⟩ := h.underWay t hin
      refine ⟨k, s, (hm.at_other fun hk => hticket ?_).mpr hat⟩
      subst hk
      rw [← honly _ hat]
      rfl
  · by_cases hk₁ : request = k₁
    · by_cases hk₂ : request = k₂
      · exact hk₁.symm.trans hk₂
      · subst hk₁
        exact absurd (hm.at_mine h₁).2.symm (hafter k₂ t s₂ s₁ hk₂ ((hm.at_other hk₂).mp h₂))
    · have h₁' := (hm.at_other hk₁).mp h₁
      by_cases hk₂ : request = k₂
      · subst hk₂
        exact absurd (hm.at_mine h₂).2.symm (hafter k₁ t s₁ s₂ hk₁ h₁')
      · exact h.apart k₁ k₂ t s₁ s₂ h₁' ((hm.at_other hk₂).mp h₂)

end

/-! ### A gateway at work -/

/-- Each backend of a gateway is served, and every request has a number that was given out. -/
structure Hosts (r : GatewayRun) : Prop where
  keys : r.flights.keys.Nodup
  numbers : ∀ request f, r.flights.find request = some f → request < r.nextRequest
  foreseen : ∀ request f, r.flights.find request = some f → f.phase.Foreseen
  serves : ∀ authority, ∃ x, r.Serves authority x

/-- What changes neither pools nor requests on their way. -/
theorem Hosts.congr (h : r.Hosts) (hpools : r'.gateway.pools = r.gateway.pools)
    (hflights : r'.flights = r.flights) (hnumbers : r.nextRequest ≤ r'.nextRequest) :
    r'.Hosts where
  keys := hflights ▸ h.keys
  numbers request f hf := Nat.lt_of_lt_of_le (h.numbers request f (hflights ▸ hf)) hnumbers
  foreseen request f hf := h.foreseen request f (hflights ▸ hf)
  serves authority := by
    obtain ⟨x, hx⟩ := h.serves authority
    refine hx.aside (Traffic.leads_nothing hx.reached x.stands_none) ?_
      (congrArg _ hpools) (at_congr hflights)
    rw [poolOf, hpools]
    exact hx.pool.symm

/-- A turn of a request that is on its way, or begins its way. -/
theorem Hosts.goOn (h : r.Hosts) (hnumber : request < r.nextRequest) (hforeseen : f.phase.Foreseen)
    (hf : r.flights.find request = some f ∨
      r.flights.find request = none ∧ f.phase.place = none) :
    (r.goOn request f).Hosts := by
  have hmine : ∀ f', r.flights.find request = some f' → f' = f := by
    rintro f' hf'
    rcases hf with hf | ⟨hf, -⟩
    · exact Option.some.inj (hf'.symm.trans hf)
    · simp [hf] at hf'
  have hpresent : f.phase.place ≠ none → r.flights.find request = some f := fun hplace =>
    hf.resolve_right fun h => hplace h.2
  have hat : ∀ t s, f.phase.place = some (t, s) → r.At request f.backend f.phase.place :=
    fun t s hplace => ⟨f, hpresent (by simp [hplace]), rfl, rfl⟩
  obtain ⟨x, hx⟩ := h.serves f.backend
  obtain ⟨after, q, hleads, hm⟩ := goOn_moved request hx.reached hx.pool
    (fun t s hplace => hx.stands request t s (hplace ▸ hat t s hplace)) hforeseen
  refine ⟨nodup_flights_goOn f h.keys, fun k g hg => ?_, fun k g hg => ?_, fun authority => ?_⟩
  · rw [hm.nextRequest]
    by_cases hk : request = k
    · exact hk ▸ hnumber
    · exact h.numbers k g ((hm.others k hk).symm.trans hg)
  · by_cases hk : request = k
    · subst hk
      exact (hm.mine g hg).2.2
    · exact h.foreseen k g ((hm.others k hk).symm.trans hg)
  · by_cases hne : f.backend = authority
    · subst hne
      refine hx.moved hm hleads hat fun place h' => ?_
      obtain ⟨f', hf', -, rfl⟩ := h'
      rw [hmine f' hf']
    · obtain ⟨y, hy⟩ := h.serves authority
      exact hy.elsewhere hm hne fun f' hf' => congrArg _ (hmine f' hf')

theorem Hosts.attend (h : r.Hosts) (n : Nat) (c : Chore) : (r.attend n c).Hosts := by
  obtain ⟨routes, metrics, pools, network, probeLines, chores, hattend, -, hpools⟩ :=
    attend_frame r n c
  rw [hattend]
  rcases hpools with hpools | hpools
  · exact h.congr hpools rfl (Nat.le_refl _)
  · have hlimits : pools.limits = r.gateway.pools.limits := by
      rw [hpools]
      rfl
    refine ⟨h.keys, h.numbers, h.foreseen, fun authority => ?_⟩
    obtain ⟨x, hx⟩ := h.serves authority
    refine hx.aside (Traffic.leads_evict hx.reached x.stands_none r.now) ?_ hlimits (at_congr rfl)
    rw [poolOf, hx.pool]
    exact (congrArg (fun s : Pools => (s.ensure authority).1) hpools).trans
      (Pools.ensure_evict ..)

theorem Hosts.closeBackend (h : r.Hosts) (port : Nat) : (r.closeBackend port).Hosts := by
  refine ⟨h.keys, h.numbers, h.foreseen, fun authority => ?_⟩
  obtain ⟨x, hx⟩ := h.serves authority
  have hchanged := changed_onPool r (backendHost ++ ":" ++ toString port)
    (·.noteClosed fun _ => true) rfl
  by_cases hne : backendHost ++ ":" ++ toString port = authority
  · subst hne
    refine hx.aside (Traffic.leads_noteClosed hx.reached x.stands_none fun _ => true)
      (hchanged.pool.trans ?_) rfl (at_congr rfl)
    rw [hx.pool]
  · exact hx.aside (Traffic.leads_nothing hx.reached x.stands_none)
      ((hchanged.pools authority hne).trans hx.pool.symm) rfl (at_congr rfl)

/-- A request whose body was read, and which has a number of its own. -/
theorem Hosts.run (h : r.Hosts) (hnumber : request < r.nextRequest)
    (hnew : r.flights.find request = none) (visit : Nat) (incoming : Incoming)
    (body : ByteArray) : (r.run request visit incoming body).Hosts := by
  obtain ⟨memory, balancers, breakers, metrics, ⟨desk, responses, hrun⟩ | ⟨p, -, hrun⟩⟩ :=
    run_cases r request visit incoming body
  · rw [hrun]
    exact h.congr rfl rfl (Nat.le_refl _)
  · have hsent : Hosts { r with
        gateway := { r.gateway with memory, balancers, breakers, metrics }
        desk := r.desk.start visit } := h.congr rfl rfl (Nat.le_refl _)
    rw [hrun]
    exact hsent.goOn hnumber trivial (.inr ⟨hnew, rfl⟩)

theorem Hosts.begin (h : r.Hosts) (incoming : Incoming) : (r.begin incoming).2.Hosts := by
  rcases begin_cases r incoming with
    ⟨desk, responses, hbegin⟩ | ⟨desk, visit, body, hbegin⟩
  · rw [hbegin]
    exact h.congr rfl rfl (Nat.le_succ _)
  · -- The number of the request is the next one, which no other one has.
    have hnew : r.flights.find r.nextRequest = none := by
      by_contra hfound
      obtain ⟨f, hf⟩ := Option.ne_none_iff_exists'.mp hfound
      exact Nat.lt_irrefl _ (h.numbers _ f hf)
    have h' : Hosts { r with nextRequest := r.nextRequest + 1, desk } :=
      h.congr rfl rfl (Nat.le_succ _)
    rw [hbegin]
    exact h'.run (Nat.lt_succ_self _) hnew visit _ body

theorem Hosts.proceed (h : r.Hosts) (hr' : r.proceed = some r') : r'.Hosts := by
  rcases proceed_cases hr' with ⟨request, f, hmem, -, rfl⟩ | ⟨n, c, -, rfl⟩
  · have hf : r.flights.find request = some f := Keyed.findIn_of_mem h.keys hmem
    exact h.goOn (h.numbers request f hf) (h.foreseen request f hf) (.inl hf)
  · exact h.attend n c

/-- What becomes of a gateway: requests come in, all goes on that can, backends close their
connections, and whatever else there is that concerns neither pools nor requests on their way. -/
inductive AtWork (r₀ : GatewayRun) : GatewayRun → Prop
  | start : AtWork r₀ r₀
  | comes {r : GatewayRun} (incoming : Incoming) : AtWork r₀ r → AtWork r₀ (r.begin incoming).2
  | proceeds {r r' : GatewayRun} : AtWork r₀ r → r.proceed = some r' → AtWork r₀ r'
  | closes {r : GatewayRun} (port : Nat) : AtWork r₀ r → AtWork r₀ (r.closeBackend port)
  | aside {r r' : GatewayRun} : AtWork r₀ r → r'.gateway.pools = r.gateway.pools →
      r'.flights = r.flights → r.nextRequest ≤ r'.nextRequest → AtWork r₀ r'

/-- **Every backend is served** as long as a gateway is at work. -/
theorem AtWork.hosts {r₀ : GatewayRun} (h : AtWork r₀ r) (h₀ : r₀.Hosts) : r.Hosts := by
  induction h with
  | start => exact h₀
  | comes incoming _ ih => exact ih.begin incoming
  | proceeds _ hr' ih => exact ih.proceed hr'
  | closes port _ ih => exact ih.closeBackend port
  | aside _ hpools hflights hnumbers ih => exact ih.congr hpools hflights hnumbers

/-- A gateway at work is so, however long it goes on. -/
theorem AtWork.runFor {r₀ : GatewayRun} (horizon : Option Instant) (reached : GatewayRun → Bool)
    (fuel : Nat) (h : AtWork r₀ r) : AtWork r₀ (motion.runFor horizon reached fuel r) := by
  refine Motion.runFor_keeps ?_ ?_ horizon reached fuel h
  · exact fun s s' hs hs' => hs.proceeds hs'
  · exact fun s t hs _ => hs.aside rfl rfl (Nat.le_refl _)

/-- A gateway that has just started. -/
theorem hosts_create (s : Settings) {gateway : Gateway} (h : gateway.pools.pools = .empty)
    (network : Network) (madeId : String) : (create s gateway network madeId).Hosts where
  keys := List.nodup_nil
  numbers _ _ hf := absurd hf (by simp [create])
  foreseen _ _ hf := absurd hf (by simp [create])
  serves authority := by
    have hnone : ∀ k place, ¬ (create s gateway network madeId).At k authority place := by
      rintro k place ⟨f, hf, -⟩
      simp [create] at hf
    refine ⟨.start gateway.pools.limits authority, .start, ?_, ?_, ?_, ?_⟩
    · show Pool.create gateway.pools.limits authority = (gateway.pools.ensure authority).1
      rw [Pools.ensure_eq, h]
      rfl
    · exact fun k t s h' => absurd h' (hnone k _)
    · exact fun t ht => absurd ht List.not_mem_nil
    · exact fun k₁ k₂ t s₁ s₂ h₁ _ => absurd h₁ (hnone k₁ _)

/-- The pool of a backend is one to which the use of a single pool can lead. What is known of all of
these is known of it. -/
theorem Hosts.pool_reached (h : r.Hosts) (authority : String) :
    ∃ s, Pool.Reached r.gateway.pools.limits authority s ∧ s.pool = r.poolOf authority := by
  obtain ⟨x, hx⟩ := h.serves authority
  exact ⟨x.session, hx.reached.session, hx.pool⟩

/-- While no request is on its way to a backend, no permit of its pool is in use. Someone who makes
a pause is not on the way. -/
theorem Hosts.inUse_eq_zero (h : r.Hosts) {authority : String}
    (hnone : ∀ request t s, ¬ r.At request authority (some (t, s))) :
    (r.poolOf authority).inUse = 0 := by
  obtain ⟨x, hx⟩ := h.serves authority
  rw [← hx.pool]
  refine hx.reached.inUse_eq_zero (List.eq_nil_iff_forall_not_mem.mpr fun t ht => ?_)
  obtain ⟨k, s, hk⟩ := hx.underWay t ht
  exact hnone k t s hk

end GatewayRun

end HttpGateway.Simulation
