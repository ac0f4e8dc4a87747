/-
Status codes of responses.

* **Status** — a number of three digits, 100 to 999.
* **Status.ofCode?** — the status with a given number, where there is one.
* **Bodiless** — whether the answer to a method has no body with a status.
-/
namespace HttpGateway.Http

/-- A status code. -/
structure Status where
  code : Nat
  inRange : 100 ≤ code ∧ code ≤ 999 := by decide
deriving DecidableEq, Repr

namespace Status

/-- The status with a given number. -/
def ofCode? (code : Nat) : Option Status :=
  if h : 100 ≤ code ∧ code ≤ 999 then some ⟨code, h⟩ else none

def ok : Status := ⟨200, by decide⟩
def unauthorized : Status := ⟨401, by decide⟩
def notFound : Status := ⟨404, by decide⟩
def payloadTooLarge : Status := ⟨413, by decide⟩
def tooManyRequests : Status := ⟨429, by decide⟩
def internalServerError : Status := ⟨500, by decide⟩
def badGateway : Status := ⟨502, by decide⟩
def serviceUnavailable : Status := ⟨503, by decide⟩
def gatewayTimeout : Status := ⟨504, by decide⟩

instance : Inhabited Status := ⟨ok⟩

/-- Statuses of the two hundreds. -/
def isSuccess (s : Status) : Bool := s.code / 100 == 2

/-- Statuses that come before the one of the answer. -/
def isInterim (s : Status) : Bool := s.code / 100 == 1 && s.code != 101

theorem ofCode?_eq_some {n : Nat} {s : Status} : ofCode? n = some s ↔ s.code = n := by
  obtain ⟨c, hc⟩ := s
  by_cases h : 100 ≤ n ∧ n ≤ 999 <;> simp [ofCode?, h, Status.mk.injEq, eq_comm]
  rintro rfl
  exact h hc

end Status

/-- Whether a response has no body, whatever its head says. -/
def Bodiless (method : String) (s : Status) : Prop :=
  method = "HEAD" ∨ s.code / 100 = 1 ∨ s.code = 204 ∨ s.code = 304 ∨
    method = "CONNECT" ∧ s.isSuccess = true

instance (method : String) (s : Status) : Decidable (Bodiless method s) :=
  inferInstanceAs (Decidable (_ ∨ _))

end HttpGateway.Http
