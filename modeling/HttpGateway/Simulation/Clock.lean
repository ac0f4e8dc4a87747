/-
Time that moves only when nothing else does.

* **Motion** — what moves in a state: things that can go on now, and the next time at which one can.
* **Motion.run** — lets all go on until a goal is reached. When nothing can go on, the clock jumps to
  the next time at which something can, but not past a horizon.
* **Motion.settle**, **Motion.pass** — lets all go on that can now, or for some time.
-/
import HttpGateway.Time

namespace HttpGateway.Simulation

/-- What moves in a state. -/
structure Motion (σ : Type) where
  now : σ → Instant
  setNow : Instant → σ → σ
  proceed : σ → Option σ
  alarm : σ → Option Instant

/-- How many steps a run may take. -/
def patience : Nat := 1000000

/-- The earlier of two times, either of which may be never. -/
def earlier : Option Instant → Option Instant → Option Instant
  | none, b => b
  | a, none => a
  | some a, some b => some (min a b)

/-- The earliest of several times. -/
def earliest (ts : List Instant) : Option Instant := ts.foldr (fun t r => earlier (some t) r) none

namespace Motion

variable {σ : Type}

/-- Whether a time is not past the horizon. -/
def within (horizon : Option Instant) (t : Instant) : Bool := horizon.all (t ≤ ·)

/-- Lets all go on until a goal is `reached`, or until nothing goes on before the horizon. -/
def runFor (m : Motion σ) (horizon : Option Instant) (reached : σ → Bool) : Nat → σ → σ
  | 0, s => s
  | fuel + 1, s =>
    if reached s then s
    else
      match m.proceed s with
      | some s => m.runFor horizon reached fuel s
      | none =>
        match (m.alarm s).filter (within horizon) with
        | some t => m.runFor horizon reached fuel (m.setNow (max t (m.now s)) s)
        | none => s

/-- Lets all go on until a goal is `reached`, however long that takes. -/
def run (m : Motion σ) (reached : σ → Bool) (s : σ) : σ := m.runFor none reached patience s

/-- Lets all go on that can now. -/
def settle (m : Motion σ) (s : σ) : σ := m.runFor (some (m.now s)) (fun _ => false) patience s

/-- Lets some time pass. -/
def pass (m : Motion σ) (span : Instant) (s : σ) : σ :=
  let goal := m.now s + span
  m.setNow goal (m.runFor (some goal) (fun _ => false) patience s)

end Motion

end HttpGateway.Simulation
