/-
Breakers of different services.

All services share one registry, with one counter for the serial numbers of their breakers. Yet what
is done for one service is not noticed by any other.

* **Usage.Moved** — what a step can do to a registry in use and to the breakers removed from it.
* **Usage.Sound** — the serial numbers of a service are different. Every step keeps it
  (`Sound.moved`), and so a permit leads back to the one breaker that issued it.
* `Sound.lineage_step_own`, `lineage_step_other` — a step for a service is a step of its lineage, and
  leaves the lineages of all other services alone.
* `services_apart` — so what is seen of a service in a run is what its lineage says to the deeds for
  it. A breaker that was removed stays away from those that are made after it.
-/
import HttpGateway.Proofs.Breaker.Lineage

namespace HttpGateway.Breaker

namespace Usage

variable {u u' : Usage} {service other : String} {now : Instant} {b : Registered} {p : Permit}
  {registry : Registry} {f : Breaker → Breaker}

theorem past_set (u : Usage) (registry : Registry) (service : String) (l : List Registered) :
    Usage.past ⟨registry, u.removed.set service l⟩ service = l := by
  rw [past, Keyed.findD, Keyed.find_set_self, Option.getD_some]

theorem past_set_other (u : Usage) (registry : Registry) (h : service ≠ other)
    (l : List Registered) :
    Usage.past ⟨registry, u.removed.set service l⟩ other = u.past other := by
  rw [past, Keyed.findD, Keyed.find_set_other _ h]
  rfl

theorem of_permit? {place : Nat} {issuedIn : State}
    (h : u.permit? service place issuedIn = some p) :
    ∃ b, (u.made service)[place]? = some b ∧ p = ⟨service, b.serial, issuedIn⟩ := by
  obtain ⟨b, hb, rfl⟩ := Option.map_eq_some_iff.mp h
  exact ⟨b, hb, rfl⟩

/-! ### What a step can do -/

/-- What a step for a service can do to all the breakers. -/
inductive Moved (u : Usage) (now : Instant) (service : String) : Usage → Prop
  | same : Moved u now service u
  | ensured : Moved u now service { u with registry := (u.registry.ensure service now).2 }
  | called : Moved u now service { u with registry := (u.registry.acquire service now).2 }
  | set (f : Breaker → Breaker) :
      Moved u now service { u with registry := (u.registry.onService service f).2 }
  | removed :
      Moved u now service
        ⟨(u.registry.remove service).2, u.removed.set service (u.made service)⟩
  | told (p : Permit) (f : Breaker → Breaker) : p.service = service →
      Moved u now service (u.tell p (u.registry.onIssuer p f) f)

theorem moved_step (u : Usage) (now : Instant) (service : String) (deed : Deed) :
    Moved u now service (u.step now service deed).2 := by
  cases deed with
  | get => exact .ensured
  | call => exact .called
  | reset => exact .set (·.reset now)
  | disable => exact .set (·.disable now)
  | forceOpen => exact .set (·.forceOpen now)
  | remove => exact .removed
  | read => exact .same
  | acquire place =>
    rw [step]
    split
    · exact .told _ _ rfl
    · exact .same
  | record place issuedIn success took =>
    rw [step]
    split
    · next p hp =>
      obtain ⟨b, -, rfl⟩ := of_permit? hp
      exact .told _ _ rfl
    · exact .same
  | drop place issuedIn =>
    rw [step]
    split
    · next p hp =>
      obtain ⟨b, -, rfl⟩ := of_permit? hp
      exact .told _ _ rfl
    · exact .same
  | look place => exact .same

/-! ### Other services -/

/-- A step for one service leaves the breakers of all other ones alone. -/
theorem Moved.aside (hm : Moved u now service u') (h : service ≠ other) :
    u'.past other = u.past other ∧ u'.current other = u.current other := by
  cases hm with
  | same => exact ⟨rfl, rfl⟩
  | ensured => exact ⟨rfl, Registry.find_ensure_other h⟩
  | called =>
    refine ⟨rfl, ?_⟩
    simp only [current, Registry.acquire_eq, Registry.put]
    rw [Keyed.find_set_other _ h, Registry.find_ensure_other h]
  | set f => exact ⟨rfl, Registry.find_onService_other h f⟩
  | removed => exact ⟨past_set_other _ _ h _, Keyed.find_erase_other _ h⟩
  | told p f hp =>
    subst hp
    exact ⟨past_set_other _ _ h _, Registry.find_onIssuer_other h f⟩

theorem lineage_step_other (h : service ≠ other) (u : Usage) (now : Instant) (deed : Deed) :
    (u.step now service deed).2.lineage other = u.lineage other := by
  obtain ⟨hpast, hcurrent⟩ := (u.moved_step now service deed).aside h
  rw [lineage, hpast, hcurrent, lineage]

/-! ### Serial numbers stay different -/

theorem serials_eq (u : Usage) (service : String) :
    u.serials service
      = (u.past service).map (·.serial) ++ ((u.current service).map (·.serial)).toList := by
  rw [serials, made, List.map_append, Option.toList_map]

theorem serials_congr (hpast : (u'.past other).map (·.serial) = (u.past other).map (·.serial))
    (hcurrent : (u'.current other).map (·.serial) = (u.current other).map (·.serial)) :
    u'.serials other = u.serials other := by
  rw [serials_eq, serials_eq, hpast, hcurrent]

theorem Sound.congr (hu : u.Sound) (hnext : u'.registry.nextSerial = u.registry.nextSerial)
    (h : ∀ service, u'.serials service = u.serials service) : u'.Sound where
  nodup service := by
    rw [h]
    exact hu.nodup service
  lt service n hn := by
    rw [hnext]
    exact hu.lt service n (h service ▸ hn)

theorem sound_start (limits : Limits) : (start limits).Sound where
  nodup _ := List.nodup_nil
  lt _ _ hn := absurd hn List.not_mem_nil

theorem Sound.ensure (hu : u.Sound) (service : String) (now : Instant) :
    Sound { u with registry := (u.registry.ensure service now).2 } := by
  cases hfind : u.registry.breakers.find service with
  | some b =>
    rw [Registry.ensure_of_find hfind]
    exact hu
  | none =>
    rw [Registry.ensure_of_none hfind]
    generalize hu' : ({ u with registry := _ } : Usage) = u'
    have hnext : u'.registry.nextSerial = u.registry.nextSerial + 1 := by rw [← hu']
    have hown : u'.serials service = u.serials service ++ [u.registry.nextSerial] := by
      have hcurrent : u'.current service
          = some ⟨u.registry.nextSerial, .create u.registry.limits now⟩ := by
        rw [← hu']
        exact Keyed.find_set_self ..
      have hnone : u.current service = none := hfind
      have hpast : u'.past service = u.past service := by rw [← hu']; rfl
      rw [serials_eq, serials_eq, hpast, hcurrent, hnone]
      simp
    have hother (other : String) (h : service ≠ other) : u'.serials other = u.serials other := by
      refine serials_congr (by rw [← hu']; rfl) (congrArg _ ?_)
      rw [← hu']
      exact Keyed.find_set_other _ h _
    refine ⟨fun other => ?_, fun other n hn => ?_⟩
    · by_cases h : service = other
      · -- The new serial number is above those that have been given out.
        subst h
        rw [hown]
        refine List.nodup_append.mpr ⟨hu.nodup service, List.nodup_singleton _, fun n hn m hm => ?_⟩
        rw [List.mem_singleton.mp hm]
        exact Nat.ne_of_lt (hu.lt service n hn)
      · rw [hother other h]
        exact hu.nodup other
    · rw [hnext]
      by_cases h : service = other
      · subst h
        rw [hown] at hn
        rcases List.mem_append.mp hn with hn | hn
        · exact Nat.lt_succ_of_lt (hu.lt service n hn)
        · rw [List.mem_singleton.mp hn]
          exact Nat.lt_succ_self _
      · exact Nat.lt_succ_of_lt (hu.lt other n (hother other h ▸ hn))

theorem Sound.put (hu : u.Sound) (hb : u.current service = some b) {b' : Registered}
    (hserial : b'.serial = b.serial) :
    Sound { u with registry := u.registry.put service b' } := by
  refine hu.congr rfl fun other => serials_congr rfl ?_
  by_cases h : service = other
  · subst h
    have hfind : (u.registry.put service b').breakers.find service = some b' :=
      Keyed.find_set_self ..
    rw [current, hfind, hb, Option.map_some, Option.map_some, hserial]
  · exact congrArg _ (Keyed.find_set_other _ h _)

theorem Sound.tell (hu : u.Sound) (p : Permit) (f : Breaker → Breaker) :
    (u.tell p (u.registry.onIssuer p f) f).Sound := by
  refine hu.congr (Registry.setup_onIssuer _ p f).2 fun other => ?_
  by_cases h : p.service = other
  · subst h
    refine serials_congr ?_ ?_
    · rw [Usage.tell, past_set, serials_told]
    · rw [current, Usage.tell, Registry.find_onIssuer, Option.map_map]
      refine congrArg (Option.map · _) (funext fun b => ?_)
      exact b.serial_told p.serial f
  · refine serials_congr (congrArg _ (past_set_other _ _ h _)) (congrArg _ ?_)
    exact Registry.find_onIssuer_other h f

theorem Sound.set (hu : u.Sound) (service : String) (f : Breaker → Breaker) :
    Sound { u with registry := (u.registry.onService service f).2 } := by
  refine hu.congr (Registry.setup_onService _ service f).2 fun other => serials_congr rfl ?_
  by_cases h : service = other
  · subst h
    rw [current, Registry.find_onService, Option.map_map]
    rfl
  · exact congrArg _ (Registry.find_onService_other h f)

theorem Sound.remove (hu : u.Sound) (service : String) :
    Sound ⟨(u.registry.remove service).2, u.removed.set service (u.made service)⟩ := by
  refine hu.congr rfl fun other => ?_
  by_cases h : service = other
  · subst h
    have hnone : (u.registry.remove service).2.breakers.find service = none :=
      Keyed.find_erase_self ..
    rw [serials, made, past_set, current, hnone, Option.toList_none, List.append_nil, serials]
  · refine serials_congr (congrArg _ (past_set_other _ _ h _)) (congrArg _ ?_)
    exact Keyed.find_erase_other _ h

theorem Sound.moved (hu : u.Sound) (hm : Moved u now service u') : u'.Sound := by
  cases hm with
  | same => exact hu
  | ensured => exact hu.ensure service now
  | called =>
    rw [Registry.acquire_eq]
    exact (hu.ensure service now).put (Registry.find_ensure ..) rfl
  | set f => exact hu.set service f
  | removed => exact hu.remove service
  | told p f _ => exact hu.tell p f

theorem Sound.step (hu : u.Sound) (now : Instant) (service : String) (deed : Deed) :
    (u.step now service deed).2.Sound := hu.moved (u.moved_step now service deed)

/-! ### The service itself -/

theorem made_lineage (u : Usage) (service : String) :
    (u.lineage service).made = (u.made service).map (·.breaker) := by
  rw [Lineage.made, lineage, made, List.map_append, Option.toList_map]

theorem length_lineage (u : Usage) (service : String) :
    (u.lineage service).past.length = (u.past service).length := List.length_map ..

theorem Sound.not_mem_past (hu : u.Sound) (hb : u.current service = some b) :
    b.serial ∉ (u.past service).map (·.serial) := by
  have hnodup := hu.nodup service
  rw [serials_eq, hb] at hnodup
  intro hmem
  exact (List.nodup_append.mp hnodup).2.2 _ hmem b.serial (by simp) rfl

/-- The current breaker comes after those that were removed. -/
theorem Sound.place_current (hu : u.Sound) (hb : u.current service = some b) :
    u.place service b.serial = (u.past service).length := by
  have hnot := hu.not_mem_past hb
  have hpast : (u.past service).findIdx (·.serial == b.serial) = (u.past service).length := by
    refine List.findIdx_eq_length.mpr fun c hc => ?_
    refine beq_eq_false_iff_ne.mpr fun he => hnot ?_
    exact he ▸ List.mem_map_of_mem hc
  rw [place, made, hb, List.findIdx_append, hpast, if_neg (Nat.lt_irrefl _)]
  simp

/-- The issuer of a permit is the breaker at its place, whether it is still there or not. -/
theorem Sound.lineage_tell (hu : u.Sound) {place : Nat} (hb : (u.made service)[place]? = some b)
    (issuedIn : State) (hr : registry = u.registry.onIssuer ⟨service, b.serial, issuedIn⟩ f) :
    (u.tell ⟨service, b.serial, issuedIn⟩ registry f).lineage service
      = (u.lineage service).change place f := by
  subst hr
  have hpast : (u.tell ⟨service, b.serial, issuedIn⟩
      (u.registry.onIssuer ⟨service, b.serial, issuedIn⟩ f) f).past service
        = (u.past service).map (.told b.serial f) := past_set ..
  have hcurrent : (u.tell ⟨service, b.serial, issuedIn⟩
      (u.registry.onIssuer ⟨service, b.serial, issuedIn⟩ f) f).current service
        = (u.current service).map (.told b.serial f) := Registry.find_onIssuer ..
  rw [lineage, hpast, hcurrent, Lineage.change, length_lineage]
  by_cases hplace : place < (u.past service).length
  · -- It has been removed, and no current breaker has its serial number.
    rw [made, List.getElem?_append_left hplace] at hb
    have hnodup := (List.nodup_append.mp (serials_eq u service ▸ hu.nodup service)).1
    rw [map_told hnodup hb, if_neg (Nat.ne_of_lt hplace)]
    refine congrArg (Lineage.mk _) ?_
    cases hc : u.current service with
    | none => simp [lineage, hc]
    | some c =>
      have hne : c.serial ≠ b.serial := fun he =>
        hu.not_mem_past hc (he ▸ List.mem_map_of_mem (List.mem_of_getElem? hb))
      simp [lineage, hc, Registered.told_other hne]
  · -- It is the current one, and none that was removed has its serial number.
    rw [made, List.getElem?_append_right (Nat.le_of_not_lt hplace)] at hb
    cases hc : u.current service with
    | none => simp [hc] at hb
    | some c =>
      have hlast : place = (u.past service).length ∧ c = b := by
        rw [hc, Option.toList_some, List.getElem?_singleton] at hb
        split at hb
        · exact ⟨by omega, Option.some.inj hb⟩
        · simp at hb
      obtain ⟨hlast, rfl⟩ := hlast
      have hlength : (u.lineage service).past.length ≤ place := by
        rw [length_lineage, hlast]
      rw [map_told_of_not_mem (hu.not_mem_past hc), if_pos hlast, List.modify_eq_self hlength]
      simp [lineage, hc, Registered.told_self]

/-- Where a breaker was asked for, it is the current one. -/
theorem Sound.lineage_get (hu : u.Sound) (service : String) (now : Instant) :
    u.step now service .get
      = (.breaker (u.lineage service).past.length,
          { u with registry := (u.registry.ensure service now).2 }) := by
  have hcurrent := Registry.find_ensure u.registry service now
  rw [Usage.step, (hu.ensure service now).place_current hcurrent, length_lineage]
  rfl

theorem Sound.lineage_call (hu : u.Sound) (service : String) (now : Instant) :
    let b := (u.lineage service).current.getD (.create u.registry.limits now)
    (u.step now service .call).1
        = .permit ((b.acquire now).1.map ((u.lineage service).past.length, ·)) ∧
      ((u.step now service .call).2.current service).map (·.breaker) = some (b.acquire now).2 := by
  intro b
  have hb : (u.registry.ensure service now).1.breaker = b := Registry.breaker_ensure ..
  have hsound : (u.step now service .call).2.Sound := hu.step now service .call
  have hcurrent : (u.step now service .call).2.current service
      = some ⟨(u.registry.ensure service now).1.serial, (b.acquire now).2⟩ := by
    simp only [Usage.step, Registry.acquire_eq, hb]
    exact Keyed.find_set_self ..
  constructor
  · have hplace := (hsound.place_current hcurrent).trans (u.length_lineage service).symm
    simp only [Usage.step, Registry.acquire_eq, hb] at hplace ⊢
    cases (b.acquire now).1 with
    | ok state => simp only [Except.map, hplace]
    | error reason => rfl
  · rw [hcurrent, Option.map_some]

theorem onService_lineage (u : Usage) (service : String) (f : Breaker → Breaker) :
    (u.onRegistry (u.registry.onService service f)).1 = ((u.lineage service).onCurrent f).1 ∧
      (u.onRegistry (u.registry.onService service f)).2.lineage service
        = ((u.lineage service).onCurrent f).2 := by
  constructor
  · simp [onRegistry, Lineage.onCurrent, Registry.onService_fst, lineage, current]
  · refine congrArg (Lineage.mk _) ?_
    rw [onRegistry, current, Registry.find_onService, Option.map_map]
    simp [lineage, current, Option.map_map, Function.comp_def]

/-- A step for a service is a step of its lineage. -/
theorem Sound.lineage_step_own (hu : u.Sound) (now : Instant) (service : String) (deed : Deed) :
    let after := (u.lineage service).step u.registry.limits now deed
    (u.step now service deed).1 = after.1 ∧
      (u.step now service deed).2.lineage service = after.2 := by
  intro after
  have hplaces (place : Nat) : (u.lineage service).made[place]?
      = (u.made service)[place]?.map (·.breaker) := by
    rw [made_lineage, List.getElem?_map]
  have hnone (place : Nat) (hb : (u.made service)[place]? = none) (f : Breaker → Breaker) :
      u.lineage service = (u.lineage service).change place f :=
    (Lineage.change_of_none (by rw [hplaces, hb, Option.map_none])).symm
  cases deed with
  | get =>
    rw [hu.lineage_get]
    refine ⟨rfl, congrArg (Lineage.mk _) ?_⟩
    rw [current, Registry.find_ensure, Option.map_some, Registry.breaker_ensure]
    rfl
  | call =>
    obtain ⟨hreply, hcurrent⟩ := hu.lineage_call service now
    exact ⟨hreply, congrArg (Lineage.mk _) hcurrent⟩
  | reset => exact u.onService_lineage service _
  | disable => exact u.onService_lineage service _
  | forceOpen => exact u.onService_lineage service _
  | remove =>
    have hnone : (u.step now service .remove).2.current service = none := Keyed.find_erase_self ..
    refine ⟨?_, ?_⟩
    · simp [Usage.step, onRegistry, Registry.remove, Keyed.contains, after, Lineage.step, lineage, current]
    · rw [lineage, hnone]
      simp only [Usage.step, onRegistry, past_set, after, Lineage.step, made_lineage, Option.map_none]
  | read => exact ⟨by simp [Usage.step, after, Lineage.step, lineage, current, Registry.get], rfl⟩
  | acquire place =>
    simp only [Usage.step, after, Lineage.step, hplaces]
    cases hb : (u.made service)[place]? with
    | none => exact ⟨rfl, rfl⟩
    | some b => exact ⟨rfl, hu.lineage_tell hb _ rfl⟩
  | record place issuedIn success took =>
    simp only [Usage.step, after, Lineage.step, permit?]
    cases hb : (u.made service)[place]? with
    | none => exact ⟨rfl, hnone place hb _⟩
    | some b => exact ⟨rfl, hu.lineage_tell hb _ rfl⟩
  | drop place issuedIn =>
    simp only [Usage.step, after, Lineage.step, permit?]
    cases hb : (u.made service)[place]? with
    | none => exact ⟨rfl, hnone place hb _⟩
    | some b => exact ⟨rfl, hu.lineage_tell hb _ rfl⟩
  | look place =>
    simp only [Usage.step, after, Lineage.step, hplaces, Option.map_map]
    trivial

/-! ### Runs -/

theorem Moved.limits (hm : Moved u now service u') : u'.registry.limits = u.registry.limits := by
  have hensure : (u.registry.ensure service now).2.limits = u.registry.limits := by
    unfold Registry.ensure
    split <;> rfl
  cases hm with
  | same => rfl
  | ensured => exact hensure
  | called =>
    rw [Registry.acquire_eq]
    exact hensure
  | set f => exact (Registry.setup_onService _ service f).1
  | removed => rfl
  | told p f _ => exact (Registry.setup_onIssuer _ p f).1

theorem Sound.run (errands : List Errand) : ∀ {u : Usage}, u.Sound → (u.run errands).Sound := by
  induction errands with
  | nil => exact id
  | cons e rest ih => exact fun hu => ih (hu.step e.time e.service e.deed)

/-- What has come back for a service. -/
def seen (service : String) (replies : List (String × Reply)) : List Reply :=
  (replies.filter (·.1 = service)).map (·.2)

/-- What is seen of a service is what its lineage says to the errands for it. -/
theorem Sound.run_lineage (service : String) (errands : List Errand) :
    ∀ {u : Usage}, u.Sound →
      let own := errands.filter (·.service = service)
      seen service (u.replies errands) = (u.lineage service).replies u.registry.limits own ∧
        (u.run errands).lineage service = (u.lineage service).run u.registry.limits own := by
  induction errands with
  | nil => exact fun _ => ⟨rfl, rfl⟩
  | cons e rest ih =>
    intro u hu own
    obtain ⟨hseen, hrun⟩ := ih (hu.step e.time e.service e.deed)
    rw [(u.moved_step e.time e.service e.deed).limits] at hseen hrun
    rw [seen] at hseen
    simp only [own, seen, replies, Usage.run]
    by_cases h : e.service = service
    · subst h
      obtain ⟨hreply, hafter⟩ := hu.lineage_step_own e.time e.service e.deed
      rw [hafter] at hseen hrun
      rw [List.filter_cons, if_pos (decide_eq_true rfl), List.filter_cons,
        if_pos (decide_eq_true rfl), List.map_cons, hseen, hreply]
      exact ⟨rfl, hrun⟩
    · rw [lineage_step_other h] at hseen hrun
      rw [List.filter_cons, if_neg (by simpa using h), List.filter_cons,
        if_neg (by simpa using h), hseen]
      exact ⟨rfl, hrun⟩

/-! ### Breakers that were removed -/

/-- A breaker that was removed is not made the current one again. -/
theorem Moved.gone (hm : Moved u now other u') {n : Nat}
    (h : n ∈ (u.past service).map (·.serial)) : n ∈ (u'.past service).map (·.serial) := by
  by_cases hs : other = service
  · subst hs
    cases hm with
    | removed =>
      rw [past_set, made, List.map_append]
      exact List.mem_append_left _ h
    | told p f hp =>
      subst hp
      rw [tell, past_set, serials_told]
      exact h
    | _ => exact h
  · rw [(hm.aside hs).1]
    exact h

theorem gone_run {n : Nat} (errands : List Errand) :
    ∀ {u : Usage}, n ∈ (u.past service).map (·.serial) →
      n ∈ ((u.run errands).past service).map (·.serial) := by
  induction errands with
  | nil => exact id
  | cons e rest ih => exact fun h => ih ((moved_step _ e.time e.service e.deed).gone h)

theorem Sound.serial_ne_of_gone (hu : u.Sound) {n : Nat}
    (hn : n ∈ (u.past service).map (·.serial)) :
    ∀ b, u.registry.breakers.find service = some b → b.serial ≠ n := by
  rintro b hb rfl
  exact hu.not_mem_past hb hn

/-- **The breakers of different services are apart.** In every run of what is done with the breakers
of all services, what comes back for one service, its current breaker and those that were removed
are the same as in the run in which only the errands for this service are done, each at its time.
And once its breaker has been removed, no permit of that one reaches any breaker of the registry
again, whatever is done in between. -/
theorem services_apart (limits : Limits) (errands : List Errand) (service : String) :
    let own := errands.filter (·.service = service)
    let u := (start limits).run errands
    let u' := (start limits).run own
    seen service ((start limits).replies errands) = seen service ((start limits).replies own) ∧
      u.registry.get service = u'.registry.get service ∧
      u.lineage service = u'.lineage service ∧
      ∀ b t later, u.registry.breakers.find service = some b →
        let r := ((u.step t service .remove).2.run later).registry
        ∀ p : Permit, p.service = service → p.serial = b.serial →
          ∀ now success took, r.record p now success took = r ∧ r.release p = r := by
  intro own u u'
  obtain ⟨hseen, hrun⟩ := (sound_start limits).run_lineage service errands
  obtain ⟨hseen', hrun'⟩ := (sound_start limits).run_lineage service own
  have hown : own.filter (·.service = service) = own := by simp [own]
  rw [hown] at hseen' hrun'
  have hlineage : u.lineage service = u'.lineage service := hrun.trans hrun'.symm
  refine ⟨hseen.trans hseen'.symm, congrArg Lineage.current hlineage, hlineage, ?_⟩
  intro b t later hb r p hservice hserial now success took
  have hu : u.Sound := (sound_start limits).run errands
  have hgone : b.serial ∈ ((u.step t service .remove).2.past service).map (·.serial) := by
    rw [step, onRegistry, past_set, made, current, hb]
    simp
  have hlater : ∀ c, r.breakers.find p.service = some c → c.serial ≠ p.serial := by
    rw [hservice, hserial]
    exact (Sound.run later (hu.step t service .remove)).serial_ne_of_gone (gone_run later hgone)
  exact ⟨Registry.onIssuer_of_gone hlater _, Registry.onIssuer_of_gone hlater _⟩

/-- Two services in turns. The breaker of the one opens, which the other one does not see; the breaker
of that one is removed while a call is under way, and another one is made. When the call then fails,
the new breaker, which a single failure would open, stays as it is. -/
theorem services_apart_made_again :
    let limits : Limits := ⟨.finite 50, .finite 50, 1000000, 10, 1, 1, 1⟩
    let errands : List Errand :=
      [⟨0, "b", .call⟩, ⟨1, "a", .call⟩, ⟨2, "b", .record 0 .closed false 5⟩, ⟨3, "a", .read⟩]
    let own : List Errand := [⟨1, "a", .call⟩, ⟨3, "a", .read⟩]
    let u := (start limits).run errands
    let r := ((u.step 4 "a" .remove).2.run [⟨5, "b", .forceOpen⟩, ⟨6, "a", .call⟩]).registry
    let p : Permit := ⟨"a", 1, .closed⟩
    seen "a" ((start limits).replies errands) = seen "a" ((start limits).replies own) ∧
      u.registry.breakers.find "a" = some ⟨1, .create limits 1⟩ ∧
      r.get "a" = some (.create limits 6) ∧ r.record p 7 false 5 = r := by
  intro limits errands own u r p
  obtain ⟨hseen, -, -, hgone⟩ := services_apart limits errands "a"
  have hb : u.registry.breakers.find "a" = some ⟨1, .create limits 1⟩ := by rfl
  have hr := hgone ⟨1, .create limits 1⟩ 4 [⟨5, "b", .forceOpen⟩, ⟨6, "a", .call⟩] hb p rfl rfl
  exact ⟨hseen, hb, by decide +kernel, (hr 7 false 5).1⟩

end Usage

end HttpGateway.Breaker
