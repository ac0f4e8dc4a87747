/-
The pool of each backend, after something was done to one of them or to all.

A backend without a pool has the one that its first use makes. What is done to it then leaves it as
it is, for nobody has a seat in it and none of its connections is idle.
-/
import HttpGateway.Pool.Registry
import HttpGateway.Proofs.Keyed

namespace HttpGateway.Pools

variable {s : Pools} {p : Pool} {a b : String} {f : Pool → Pool}

theorem ensure_eq (s : Pools) (a : String) :
    (s.ensure a).1 = (s.pools.find a).getD (.create s.limits a) := by
  unfold ensure get
  cases s.pools.find a <;> rfl

theorem ensure_put_self (s : Pools) (p : Pool) : ((s.put p).ensure p.authority).1 = p := by
  rw [ensure_eq, put, Keyed.find_set_self]
  rfl

theorem ensure_put_other (h : p.authority ≠ a) :
    ((s.put p).ensure a).1 = (s.ensure a).1 := by
  rw [ensure_eq, ensure_eq, put, Keyed.find_set_other _ h]

theorem ensure_modify_self (hf : f (.create s.limits a) = .create s.limits a) :
    ((s.modify a f).ensure a).1 = f (s.ensure a).1 := by
  rw [ensure_eq, ensure_eq, modify, Keyed.update]
  cases h : s.pools.find a with
  | none => simp [h, hf]
  | some p => simp

theorem ensure_modify_other (h : a ≠ b) :
    ((s.modify a f).ensure b).1 = (s.ensure b).1 := by
  rw [ensure_eq, ensure_eq, modify, Keyed.update]
  cases s.pools.find a with
  | none => rfl
  | some p => simp only [Keyed.find_set_other _ h]

theorem ensure_evict (s : Pools) (now : Instant) (a : String) :
    ((s.evict now).2.ensure a).1 = ((s.ensure a).1.evict now).2 := by
  have hpools : (s.evict now).2.pools
      = ⟨s.pools.entries.map fun e => (e.1, (e.2.evict now).2)⟩ := by
    simp only [evict, List.map_map]
    rfl
  rw [ensure_eq, ensure_eq, hpools, Keyed.find_map s.pools fun p => (p.evict now).2]
  cases s.pools.find a <;> rfl

end HttpGateway.Pools
