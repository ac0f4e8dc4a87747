/-
The breaker of a service.

* **Registered.told** — a breaker that is told something if it has a given serial number. This is
  what becomes of the breaker of a service when a permit is used (`Registry.find_onIssuer`); where
  serial numbers are different, it is the one at a single place (`map_told`).
* `Registry.find_ensure`, `Registry.find_onService` and their companions — what an operation does to
  the breaker of the service it names, and that it does nothing to those of other ones.
* `Registry.acquire_error` — a call that is not permitted leaves all breakers as they were; a
  service without a breaker gets one, which permits its first call.
-/
import HttpGateway.Breaker.Registry
import HttpGateway.Proofs.Breaker.Session
import HttpGateway.Proofs.Keyed

namespace HttpGateway.Breaker

/-! ### Telling the issuer of a permit -/

/-- Changes the breaker with a serial number. -/
def Registered.told (serial : Nat) (f : Breaker → Breaker) (b : Registered) : Registered :=
  if b.serial = serial then { b with breaker := f b.breaker } else b

section told

variable {l : List Registered} {b : Registered} {n place : Nat} {f : Breaker → Breaker}

@[simp] theorem Registered.serial_told (n : Nat) (f : Breaker → Breaker) (b : Registered) :
    (b.told n f).serial = b.serial := by
  unfold told
  split <;> rfl

theorem Registered.told_self (b : Registered) (f : Breaker → Breaker) :
    b.told b.serial f = { b with breaker := f b.breaker } := if_pos rfl

theorem Registered.told_other (h : b.serial ≠ n) (f : Breaker → Breaker) : b.told n f = b :=
  if_neg h

theorem serials_told (l : List Registered) (n : Nat) (f : Breaker → Breaker) :
    (l.map (Registered.told n f)).map (·.serial) = l.map (·.serial) := by
  simp

theorem map_told_of_not_mem (h : n ∉ l.map (·.serial)) (f : Breaker → Breaker) :
    l.map (Registered.told n f) = l := by
  refine (List.map_congr_left fun b hb => ?_).trans (List.map_id l)
  refine Registered.told_other ?_ f
  rintro rfl
  exact h (List.mem_map_of_mem hb)

/-- As serial numbers are different, only the breaker at one place is told. -/
theorem map_told (hl : (l.map (·.serial)).Nodup) (h : l[place]? = some b)
    (f : Breaker → Breaker) :
    (l.map (Registered.told b.serial f)).map (·.breaker) = (l.map (·.breaker)).modify place f := by
  induction l generalizing place with
  | nil => simp at h
  | cons c rest ih =>
    rw [List.map_cons, List.nodup_cons] at hl
    cases place with
    | zero =>
      obtain rfl : c = b := by simpa using h
      simp only [List.map_cons, List.modify_zero_cons, map_told_of_not_mem hl.1,
        Registered.told_self]
    | succ place =>
      have hmem : b ∈ rest := List.mem_of_getElem? h
      have hne : c.serial ≠ b.serial := fun he => hl.1 (he ▸ List.mem_map_of_mem hmem)
      simp only [List.map_cons, List.modify_succ_cons, Registered.told_other hne, ih hl.2 h]

end told

/-! ### The breaker of a service -/

namespace Registry

variable {r : Registry} {service other : String} {now : Instant} {b : Registered}

theorem ensure_of_find (h : r.breakers.find service = some b) : r.ensure service now = (b, r) := by
  rw [ensure, h]

theorem ensure_of_none (h : r.breakers.find service = none) :
    r.ensure service now = (⟨r.nextSerial, .create r.limits now⟩,
      { r with breakers := r.breakers.set service ⟨r.nextSerial, .create r.limits now⟩
               nextSerial := r.nextSerial + 1 }) := by
  rw [ensure, h]

theorem find_ensure (r : Registry) (service : String) (now : Instant) :
    (r.ensure service now).2.breakers.find service = some (r.ensure service now).1 := by
  cases h : r.breakers.find service with
  | some b => rw [ensure_of_find h, h]
  | none => rw [ensure_of_none h, Keyed.find_set_self]

theorem find_ensure_other (h : service ≠ other) :
    (r.ensure service now).2.breakers.find other = r.breakers.find other := by
  cases hf : r.breakers.find service with
  | some b => rw [ensure_of_find hf]
  | none => rw [ensure_of_none hf, Keyed.find_set_other _ h]

theorem breaker_ensure (r : Registry) (service : String) (now : Instant) :
    (r.ensure service now).1.breaker
      = ((r.breakers.find service).map (·.breaker)).getD (.create r.limits now) := by
  cases h : r.breakers.find service with
  | some b => rw [ensure_of_find h, Option.map_some, Option.getD_some]
  | none => rw [ensure_of_none h, Option.map_none, Option.getD_none]

theorem acquire_eq (r : Registry) (service : String) (now : Instant) :
    r.acquire service now =
      let made := r.ensure service now
      let answer := made.1.breaker.acquire now
      (answer.1.map (⟨service, made.1.serial, ·⟩),
        made.2.put service { made.1 with breaker := answer.2 }) := by
  unfold acquire
  dsimp only
  split <;> next h => simp [h, Except.map]

theorem find_onIssuer (r : Registry) (p : Permit) (f : Breaker → Breaker) :
    (r.onIssuer p f).breakers.find p.service
      = (r.breakers.find p.service).map (.told p.serial f) := by
  unfold onIssuer
  cases h : r.breakers.find p.service with
  | none => exact h
  | some b =>
    by_cases hb : b.serial = p.serial
    · simp only [if_pos hb, put, Keyed.find_set_self, Option.map_some, Registered.told]
    · simp only [if_neg hb, h, Option.map_some, Registered.told]

theorem find_onIssuer_other {p : Permit} (h : p.service ≠ other) (f : Breaker → Breaker) :
    (r.onIssuer p f).breakers.find other = r.breakers.find other := by
  unfold onIssuer
  split
  · split
    · exact Keyed.find_set_other _ h _
    · rfl
  · rfl

/-- A permit whose breaker is not there any more reaches none. -/
theorem onIssuer_of_gone {p : Permit}
    (h : ∀ b, r.breakers.find p.service = some b → b.serial ≠ p.serial) (f : Breaker → Breaker) :
    r.onIssuer p f = r := by
  unfold onIssuer
  split
  · next b hb => rw [if_neg (h b hb)]
  · rfl

theorem setup_onIssuer (r : Registry) (p : Permit) (f : Breaker → Breaker) :
    (r.onIssuer p f).limits = r.limits ∧ (r.onIssuer p f).nextSerial = r.nextSerial := by
  unfold onIssuer
  split
  · split <;> exact ⟨rfl, rfl⟩
  · exact ⟨rfl, rfl⟩

theorem find_onService (r : Registry) (service : String) (f : Breaker → Breaker) :
    (r.onService service f).2.breakers.find service
      = (r.breakers.find service).map fun b => { b with breaker := f b.breaker } := by
  unfold onService
  cases h : r.breakers.find service with
  | none => exact h
  | some b => exact Keyed.find_set_self ..

theorem find_onService_other (h : service ≠ other) (f : Breaker → Breaker) :
    (r.onService service f).2.breakers.find other = r.breakers.find other := by
  unfold onService
  split
  · exact Keyed.find_set_other _ h _
  · rfl

theorem setup_onService (r : Registry) (service : String) (f : Breaker → Breaker) :
    (r.onService service f).2.limits = r.limits ∧
      (r.onService service f).2.nextSerial = r.nextSerial := by
  unfold onService
  split <;> exact ⟨rfl, rfl⟩

theorem onService_fst (r : Registry) (service : String) (f : Breaker → Breaker) :
    (r.onService service f).1 = (r.breakers.find service).isSome := by
  unfold onService
  cases h : r.breakers.find service <;> rfl

end Registry

/-! ### Rejections -/

/-- A rejection leaves a breaker as it was. -/
theorem acquire_rejected {b : Breaker} {now : Instant} {reason : Rejection}
    (h : (b.acquire now).1 = .error reason) : (b.acquire now).2 = b := by
  rcases acquire_cases b now with hb | ⟨-, hb⟩ | ⟨-, -, hb⟩
  · exact hb
  · simp [hb] at h
  · simp [hb] at h

namespace Registry

/-- A call that is not permitted changes no breaker. -/
theorem acquire_error {r r' : Registry} {service : String} {now : Instant} {reason : Rejection}
    (h : r.acquire service now = (.error reason, r')) : r' = r := by
  unfold acquire ensure at h
  cases hfind : r.breakers.find service with
  | none =>
    -- The new breaker is closed.
    simp [hfind, acquire_closed now (b := .create r.limits now) rfl] at h
  | some b =>
    simp only [hfind] at h
    cases hanswer : (b.breaker.acquire now).1 with
    | ok state => simp [hanswer] at h
    | error reason' =>
      simp only [hanswer, acquire_rejected hanswer, put, Keyed.set_of_find hfind,
        Prod.mk.injEq] at h
      exact h.2.symm

end Registry

end HttpGateway.Breaker
