/-
The desk of a gateway in use, step by step.

* **Event**, **Event.effect** — what can happen to a desk, and who is answered. Answering a client
  and being done with the request may come apart, so that others come in between.
* **Change** — what one event can do to the visit that it is about, case by case.
* `finish_eq` — being done with a request is answering it, and then being done.
* **Desk.Sound** — what holds of every desk; `Desk.Sound.effect` says that every event keeps it.
* **Session**, **Session.admits** — a desk, and a log of all that happened, the last event first; and
  what can happen then.
* **Reached** — the sessions to which runs lead.
* `Event.effect_other` — an event leaves alone all visits but its own.
* `Event.effect_response`, `Event.effect_waits`, `Event.effect_holds` — who is answered with what, who
  waits on, and who keeps a place.
-/
import HttpGateway.Proofs.Keyed
import HttpGateway.Request.Desk
import HttpGateway.Request.Incoming

namespace HttpGateway.Request

open Http

namespace Desk

/-- Whether a visit takes up a place. -/
def holds (d : Desk) (visit : Nat) : Bool := d.visits.contains visit

/-- Whether someone waits for the response of a visit. -/
def waits (d : Desk) (visit : Nat) : Bool := (d.visits.find visit).any fun v => !v.clientGone

/-- A request is answered, and the gateway is not done with it yet. Nobody waits from then on. -/
def answer (d : Desk) (visit : Nat) (r : Response) : Option Response × Desk :=
  match d.visits.find visit with
  | none => (none, d)
  | some v =>
    (if v.clientGone then none else some r,
      { d with visits := d.visits.set visit { v with clientGone := true } })

end Desk

/-! ### Events -/

/-- What happens to a desk. The pipeline finishes with a response, or with none if it broke down. -/
inductive Event
  | arrive
  | read (visit : Nat) (request : Incoming)
  | answer (visit : Nat) (response : Response)
  | finish (visit : Nat) (response : Option Response)
  | disconnect (visit : Nat)

namespace Event

/-- The visit that an event is about. -/
def visit? : Event → Option Nat
  | arrive => none
  | read n _ | answer n _ | finish n _ | disconnect n => some n

/-- The response that an event has for the client. -/
def reply? (most : Nat) : Event → Option Response
  | read _ request =>
    match request.bodyWithin most with
    | .error e => some e.response
    | .ok _ => none
  | answer _ r => some r
  | finish _ r => some (r.getD brokenDown.response)
  | arrive | disconnect _ => none

def isDisconnect : Event → Bool
  | disconnect _ => true
  | _ => false

def isAnswer : Event → Bool
  | answer .. => true
  | _ => false

/-- Whether the pipeline breaks down. -/
def isBreakdown : Event → Bool
  | finish _ none => true
  | _ => false

/-- Who is answered, and what becomes of the desk. `most` is the length that a body may have. -/
def effect (most : Nat) (d : Desk) : Event → Option Response × Desk
  | arrive =>
    match d.arrive with
    | (none, d) => (some RequestError.busy.response, d)
    | (some _, d) => (none, d)
  | read n request =>
    match request.bodyWithin most with
    | .error e => d.turnBack n e
    | .ok _ => (none, d.start n)
  | answer n r => d.answer n r
  | finish n r => d.finish n r
  | disconnect n => (none, d.disconnect n)

end Event

/-- Whether an event can happen at a desk: a body is read once, the pipeline runs after that, and a
client leaves who still waits. -/
def Desk.admits (d : Desk) : Event → Bool
  | .arrive => true
  | .read n _ => (d.visits.find n).any (·.reading)
  | .answer n _ | .finish n _ => (d.visits.find n).any fun v => !v.reading
  | .disconnect n => d.waits n

namespace Desk

/-- A visit goes on in another way. -/
def put (d : Desk) (visit : Nat) (v : Visit) : Desk := { d with visits := d.visits.set visit v }

/-- A visit begins. -/
def letIn (d : Desk) : Desk :=
  { d with visits := d.visits.set d.nextVisit ⟨true, false⟩, nextVisit := d.nextVisit + 1 }

/-- A visit is over. -/
def clear (d : Desk) (visit : Nat) : Desk := { d with visits := d.visits.erase visit }

end Desk

/-- What an event makes of a desk with the visit that it is about, and what the client gets. -/
inductive Change (most : Nat) (d : Desk) (n : Nat) (v : Visit) :
    Event → Option Response × Desk → Prop
  | start {request body} : request.bodyWithin most = .ok body →
      Change most d n v (.read n request) (none, d.put n { v with reading := false })
  | turnBack {request e} : request.bodyWithin most = .error e →
      Change most d n v (.read n request)
        (if v.clientGone then none else some e.response, d.clear n)
  | answer {r} : Change most d n v (.answer n r)
      (if v.clientGone then none else some r, d.put n { v with clientGone := true })
  | finish {r} : Change most d n v (.finish n r)
      (if v.clientGone then none else some (r.getD brokenDown.response), d.clear n)
  | leaveEarly : v.reading = true → Change most d n v (.disconnect n) (none, d.clear n)
  | leave : v.reading = false →
      Change most d n v (.disconnect n) (none, d.put n { v with clientGone := true })

variable {limit most n m : Nat} {d : Desk} {e : Event} {v : Visit}

theorem Event.eq_arrive (h : e.visit? = none) : e = .arrive := by
  cases e with
  | arrive => rfl
  | _ => cases h

theorem Desk.close_eq (hv : d.visits.find n = some v) (r : Response) :
    d.close n r = (if v.clientGone then none else some r, d.clear n) := by
  rw [close, hv]
  rfl

theorem Event.change (most : Nat) (hn : e.visit? = some n) (hv : d.visits.find n = some v) :
    Change most d n v e (e.effect most d) := by
  cases e with
  | arrive => cases hn
  | read m request =>
    cases hn
    rw [effect]
    cases hbody : request.bodyWithin most with
    | error e =>
      dsimp only
      rw [Desk.turnBack, Desk.close_eq hv]
      exact .turnBack hbody
    | ok body =>
      dsimp only
      rw [Desk.start, Keyed.update, hv]
      exact .start hbody
  | answer m r =>
    cases hn
    rw [effect, Desk.answer, hv]
    exact .answer
  | finish m r =>
    cases hn
    rw [effect, Desk.finish, Desk.close_eq hv]
    exact .finish
  | disconnect m =>
    cases hn
    have heq : d.disconnect n =
        if v.reading then d.clear n else d.put n { v with clientGone := true } := by
      rw [Desk.disconnect, hv]
      rfl
    rw [effect, heq]
    split
    · next hreading => exact .leaveEarly hreading
    · next hreading => exact .leave (Bool.eq_false_iff.mpr hreading)

namespace Desk

theorem holds_iff : d.holds n = true ↔ ∃ v, d.visits.find n = some v := Option.isSome_iff_exists

/-- An event is about a visit that is there, and only a client who waits can leave. -/
theorem admits_visit (he : d.admits e = true) (hn : e.visit? = some n) :
    ∃ v, d.visits.find n = some v ∧ (e.isDisconnect = true → v.clientGone = false) := by
  cases e with
  | arrive => cases hn
  | read m _ | answer m _ | finish m _ =>
    cases hn
    obtain ⟨v, hv, -⟩ := (Option.any_eq_true ..).mp he
    exact ⟨v, hv, nofun⟩
  | disconnect m =>
    cases hn
    obtain ⟨v, hv, hwaits⟩ := (Option.any_eq_true ..).mp he
    exact ⟨v, hv, fun _ => by simpa using hwaits⟩

end Desk

/-- Being done with a request is answering it, and then being done, however that comes about. -/
theorem Desk.finish_eq (hv : d.visits.find n = some v) (r : Response) (o : Option Response) :
    d.finish n (some r) = ((d.answer n r).1, ((d.answer n r).2.finish n o).2) ∧
      ((d.answer n r).2.finish n o).1 = none := by
  have hput : (d.put n { v with clientGone := true }).visits.find n =
      some { v with clientGone := true } := Keyed.find_set_self ..
  have hanswer : d.answer n r =
      (if v.clientGone then none else some r, d.put n { v with clientGone := true }) := by
    rw [answer, hv]
    rfl
  have hclear : (d.put n { v with clientGone := true }).clear n = d.clear n := by
    rw [clear, clear, put, Keyed.erase_set (Keyed.mem_keys_of_find hv)]
  rw [hanswer, finish, finish, close_eq hv, close_eq hput, hclear]
  exact ⟨rfl, rfl⟩

/-! ### The places -/

namespace Desk

theorem inHand_eq (d : Desk) : d.inHand = d.visits.keys.length := (List.length_map ..).symm

/-- What holds of every desk: nobody has two places, the visits have been numbered before, and there
are not too many. -/
structure Sound (limit : Nat) (d : Desk) : Prop where
  places : d.limit = limit
  nodup : d.visits.keys.Nodup
  known : ∀ n, d.holds n = true → n < d.nextVisit
  few : d.inHand ≤ limit

theorem holds_put (hv : d.visits.find n = some v) (w : Visit) (m : Nat) :
    (d.put n w).holds m = d.holds m := by
  have hset : (d.put n w).holds m = (decide (m = n) || d.holds m) := Keyed.contains_set ..
  by_cases hm : m = n
  · rw [hset, hm, holds_iff.mpr ⟨v, hv⟩, Bool.or_true]
  · rw [hset, decide_eq_false hm, Bool.false_or]

theorem holds_clear (d : Desk) (n m : Nat) :
    (d.clear n).holds m = (decide (m ≠ n) && d.holds m) := Keyed.contains_erase ..

theorem sound_opened (limit : Nat) : (opened limit).Sound limit where
  places := rfl
  nodup := List.nodup_nil
  known := nofun
  few := Nat.zero_le _

theorem Sound.put (h : d.Sound limit) (hv : d.visits.find n = some v) (w : Visit) :
    (d.put n w).Sound limit where
  places := h.places
  nodup := Keyed.nodup_set h.nodup n w
  known m hm := h.known m (by rwa [holds_put hv] at hm)
  few := by
    have hkeys : (d.put n w).visits.keys = d.visits.keys :=
      Keyed.keys_set (Keyed.mem_keys_of_find hv)
    rw [inHand_eq, hkeys, ← inHand_eq]
    exact h.few

theorem Sound.clear (h : d.Sound limit) (n : Nat) : (d.clear n).Sound limit where
  places := h.places
  nodup := Keyed.nodup_erase h.nodup n
  known m hm := by
    rw [holds_clear, Bool.and_eq_true] at hm
    exact h.known m hm.2
  few := by
    have hkeys : (d.clear n).visits.keys = d.visits.keys.filter (· ≠ n) := Keyed.keys_erase ..
    rw [inHand_eq, hkeys]
    exact Nat.le_trans (List.length_filter_le ..) (inHand_eq d ▸ h.few)

theorem Sound.new (h : d.Sound limit) : d.visits.find d.nextVisit = none := by
  rw [← Option.not_isSome_iff_eq_none]
  exact fun hold => Nat.lt_irrefl _ (h.known _ hold)

theorem Sound.inHand_letIn (h : d.Sound limit) : d.letIn.inHand = d.inHand + 1 := by
  have hkeys : d.letIn.visits.keys = d.visits.keys ++ [d.nextVisit] :=
    Keyed.keys_set_new (Keyed.find_eq_none_iff.mp h.new)
  rw [inHand_eq, inHand_eq, hkeys, List.length_append, List.length_singleton]

theorem holds_letIn (d : Desk) (n : Nat) :
    d.letIn.holds n = (decide (n = d.nextVisit) || d.holds n) := Keyed.contains_set ..

theorem Sound.letIn (h : d.Sound limit) (hroom : d.inHand < limit) : d.letIn.Sound limit where
  places := h.places
  nodup := Keyed.nodup_set h.nodup ..
  known n hn := by
    rw [holds_letIn, Bool.or_eq_true, decide_eq_true_eq] at hn
    rcases hn with rfl | hn
    · exact Nat.lt_succ_self _
    · exact Nat.lt_succ_of_lt (h.known n hn)
  few := by
    rw [h.inHand_letIn]
    exact hroom

/-- A request that comes in is turned away exactly if all places are taken. -/
theorem Sound.arrive (h : d.Sound limit) :
    d.inHand = limit ∧ d.arrive = (none, d) ∨
      d.inHand < limit ∧ d.arrive = (some d.nextVisit, d.letIn) := by
  rw [Desk.arrive]
  by_cases hroom : d.inHand < d.limit
  · rw [if_pos hroom]
    exact .inr ⟨h.places ▸ hroom, rfl⟩
  · rw [if_neg hroom]
    rw [h.places] at hroom
    exact .inl ⟨Nat.le_antisymm h.few (Nat.not_lt.mp hroom), rfl⟩

theorem Sound.effect_arrive (h : d.Sound limit) (most : Nat) :
    d.inHand = limit ∧ Event.arrive.effect most d = (some RequestError.busy.response, d) ∨
      d.inHand < limit ∧ Event.arrive.effect most d = (none, d.letIn) := by
  rw [Event.effect]
  rcases h.arrive with ⟨hfull, harrive⟩ | ⟨hroom, harrive⟩
  · rw [harrive]
    exact .inl ⟨hfull, rfl⟩
  · rw [harrive]
    exact .inr ⟨hroom, rfl⟩

/-- As many places are taken as visits have begun and are not over. -/
theorem Sound.inHand_eq_countP (h : d.Sound limit) :
    d.inHand = (List.range d.nextVisit).countP d.holds := by
  have hmem : ∀ n, n ∈ d.visits.keys ↔ n ∈ (List.range d.nextVisit).filter d.holds := by
    intro n
    have hheld : d.holds n = true ↔ n ∈ d.visits.keys := Keyed.contains_iff
    rw [List.mem_filter, List.mem_range, hheld]
    exact ⟨fun hn => ⟨h.known n (hheld.mpr hn), hn⟩, fun hn => hn.2⟩
  -- Neither list has a number twice, so they are equally long.
  have hperm : d.visits.keys.Perm ((List.range d.nextVisit).filter d.holds) :=
    (List.perm_ext_iff_of_nodup h.nodup (List.nodup_range.filter _)).mpr hmem
  rw [inHand_eq, hperm.length_eq, List.countP_eq_length_filter]

end Desk

/-! ### Sessions -/

/-- An event, with the desk before and after it, and what the client got. -/
structure Entry where
  event : Event
  before : Desk
  after : Desk
  response : Option Response

/-- A desk in use. -/
structure Session where
  desk : Desk
  log : List Entry

namespace Session

/-- A desk with no requests yet. -/
def start (limit : Nat) : Session := ⟨.opened limit, []⟩

/-- What the log says of an event. -/
def entry (most : Nat) (s : Session) (e : Event) : Entry where
  event := e
  before := s.desk
  after := (e.effect most s.desk).2
  response := (e.effect most s.desk).1

/-- The session after an event. -/
def step (most : Nat) (s : Session) (e : Event) : Session where
  desk := (e.effect most s.desk).2
  log := s.entry most e :: s.log

/-- The events that are about a visit. -/
def about (s : Session) (n : Nat) : List Entry := s.log.filter (·.event.visit? = some n)

/-- Whether a visit was answered before the pipeline was done with it. -/
def answered (s : Session) (n : Nat) : Bool := (s.about n).any (·.event.isAnswer)

/-- Whether an event can happen. Filters and backends come before the answer, so that a pipeline
which has answered does not break down any more. -/
def admits (s : Session) (e : Event) : Bool :=
  s.desk.admits e && !(e.isBreakdown && e.visit?.any s.answered)

/-- The session after several events. -/
def run (most : Nat) (s : Session) : List Event → Session
  | [] => s
  | e :: rest => (s.step most e).run most rest

/-- Whether events can happen one after another. -/
def canRun (most : Nat) (s : Session) : List Event → Bool
  | [] => true
  | e :: rest => s.admits e && (s.step most e).canRun most rest

variable {s : Session}

theorem admits_desk (he : s.admits e = true) : s.desk.admits e = true :=
  (Bool.and_eq_true_iff.mp he).1

theorem unanswered_of_admits (he : s.admits e = true) (hbroke : e.isBreakdown = true)
    (hn : e.visit? = some n) : s.answered n = false := by
  have hlast := (Bool.and_eq_true_iff.mp he).2
  rwa [hbroke, hn, Bool.true_and, Option.any_some, Bool.not_eq_true'] at hlast

end Session

/-- The sessions that can be reached from a desk with so many places. -/
inductive Reached (limit most : Nat) : Session → Prop
  | start : Reached limit most (.start limit)
  | step {s e} : Reached limit most s → s.admits e = true →
      Reached limit most (s.step most e)

theorem Reached.run (events : List Event) :
    ∀ {s : Session}, Reached limit most s → s.canRun most events = true →
      Reached limit most (s.run most events) := by
  induction events with
  | nil => exact fun h _ => h
  | cons e rest ih =>
    intro s h hr
    obtain ⟨he, hrest⟩ := Bool.and_eq_true_iff.mp hr
    exact ih (h.step he) hrest

variable {s : Session}

/-- All that the log tells happened in a session that could be reached. -/
theorem Reached.of_mem (h : Reached limit most s) {x : Entry} (hx : x ∈ s.log) :
    ∃ s', Reached limit most s' ∧ s'.desk.admits x.event = true ∧ x = s'.entry most x.event := by
  induction h with
  | start => cases hx
  | @step s e h he ih =>
    rcases List.mem_cons.mp hx with rfl | hx
    · exact ⟨s, h, Session.admits_desk he, rfl⟩
    · exact ih hx

/-! ### What one event does -/

/-- What an event makes of the desk, whichever visit it is about. -/
theorem Change.desk {r : Option Response × Desk} (h : Change most d n v e r) :
    (∃ w, r.2 = d.put n w) ∨ r.2 = d.clear n := by
  cases h with
  | start _ => exact .inl ⟨_, rfl⟩
  | turnBack _ => exact .inr rfl
  | answer => exact .inl ⟨_, rfl⟩
  | finish => exact .inr rfl
  | leaveEarly _ => exact .inr rfl
  | leave _ => exact .inl ⟨_, rfl⟩

theorem Desk.Sound.effect (h : d.Sound limit) (he : d.admits e = true) :
    (e.effect most d).2.Sound limit := by
  cases hn : e.visit? with
  | none =>
    rw [Event.eq_arrive hn]
    rcases h.effect_arrive most with ⟨-, heq⟩ | ⟨hroom, heq⟩
    · rwa [heq]
    · rw [heq]
      exact h.letIn hroom
  | some n =>
    obtain ⟨v, hv, -⟩ := Desk.admits_visit he hn
    rcases (Event.change most hn hv).desk with ⟨w, heq⟩ | heq
    · rw [heq]
      exact h.put hv w
    · rw [heq]
      exact h.clear n

theorem Reached.sound (h : Reached limit most s) : s.desk.Sound limit := by
  induction h with
  | start => exact Desk.sound_opened limit
  | step _ he ih => exact ih.effect (Session.admits_desk he)

/-- An event leaves alone all visits but the one that it is about, or the one that it begins. -/
theorem Event.effect_other (he : d.admits e = true) (hsound : d.Sound limit)
    (hn : e.visit? ≠ some n) (hold : n < d.nextVisit) :
    (e.effect most d).2.visits.find n = d.visits.find n := by
  cases hm : e.visit? with
  | none =>
    rw [Event.eq_arrive hm]
    rcases hsound.effect_arrive most with ⟨-, heq⟩ | ⟨-, heq⟩
    · rw [heq]
    · rw [heq]
      exact Keyed.find_set_other _ (Nat.ne_of_gt hold) _
  | some m =>
    have hne : m ≠ n := by
      rintro rfl
      exact hn hm
    obtain ⟨v, hv, -⟩ := Desk.admits_visit he hm
    rcases (Event.change most hm hv).desk with ⟨w, heq⟩ | heq
    · rw [heq]
      exact Keyed.find_set_other _ hne _
    · rw [heq]
      exact Keyed.find_erase_other _ hne

/-- Whether a visit ends with an event: its body proves unfit, the pipeline is done with it, or its
client leaves while the body is read. -/
def Event.ends (most : Nat) (d : Desk) : Event → Bool
  | read _ request => !(request.bodyWithin most).isOk
  | finish .. => true
  | disconnect n => (d.visits.find n).any (·.reading)
  | arrive | answer .. => false

/-- Whoever still waits gets what there is. -/
theorem Event.effect_response (hn : e.visit? = some n) (hv : d.visits.find n = some v) :
    (e.effect most d).1 = if v.clientGone then none else e.reply? most := by
  have hchange := Event.change most hn hv
  generalize e.effect most d = r at hchange
  cases hchange with
  | start hbody => simp [reply?, hbody]
  | turnBack hbody => simp [reply?, hbody]
  | answer | finish => rfl
  | leaveEarly _ | leave _ => exact (ite_self _).symm

/-- Somebody waits until there is something for the client, or it leaves. -/
theorem Event.effect_waits (hn : e.visit? = some n) (hv : d.visits.find n = some v) :
    (e.effect most d).2.waits n =
      (!v.clientGone && (e.reply? most).isNone && !e.isDisconnect) := by
  have hput : ∀ w : Visit, (d.put n w).waits n = !w.clientGone := by
    intro w
    rw [Desk.waits, Desk.put, Keyed.find_set_self]
    rfl
  have hclear : (d.clear n).waits n = false := by
    rw [Desk.waits, Desk.clear, Keyed.find_erase_self]
    rfl
  have hchange := Event.change most hn hv
  generalize e.effect most d = r at hchange
  cases hchange with
  | start hbody => simp [hput, reply?, isDisconnect, hbody]
  | turnBack hbody => simp [hclear, reply?, hbody]
  | answer => simp [hput, reply?]
  | finish => simp [hclear, reply?]
  | leaveEarly _ => simp [hclear, isDisconnect]
  | leave _ => simp [hput, isDisconnect]

/-- A visit keeps its place until it ends. -/
theorem Event.effect_holds (hn : e.visit? = some n) (hv : d.visits.find n = some v) :
    (e.effect most d).2.holds n = !e.ends most d := by
  have hput : ∀ w : Visit, (d.put n w).holds n = true := fun w =>
    (Desk.holds_put hv w n).trans (Desk.holds_iff.mpr ⟨v, hv⟩)
  have hclear : (d.clear n).holds n = false := by simp [Desk.holds_clear]
  have hchange := Event.change most hn hv
  generalize e.effect most d = r at hchange
  cases hchange with
  | start hbody => simp [hput, ends, hbody, Except.isOk, Except.toBool]
  | turnBack hbody => simp [hclear, ends, hbody, Except.isOk, Except.toBool]
  | answer => simp [hput, ends]
  | finish => simp [hclear, ends]
  | leaveEarly hreading => simp [hclear, ends, hv, hreading]
  | leave hreading => simp [hput, ends, hv, hreading]

/-- What there is for a client comes with an answer or with the end of the visit. -/
theorem Event.reply?_eq_none (h : e.ends most d = false) (ha : e.isAnswer = false) :
    e.reply? most = none := by
  cases e with
  | arrive | disconnect n => rfl
  | read n request =>
    rw [reply?]
    cases hbody : request.bodyWithin most with
    | ok body => rfl
    | error e => simp [ends, hbody, Except.isOk, Except.toBool] at h
  | answer n r => cases ha
  | finish n r => cases h

theorem Event.reply?_of_isDisconnect (most : Nat) (h : e.isDisconnect = true) :
    e.reply? most = none := by
  cases e with
  | disconnect n => rfl
  | _ => cases h

theorem Event.of_isBreakdown (most : Nat) (d : Desk) (h : e.isBreakdown = true) :
    e.reply? most = some brokenDown.response ∧ e.ends most d = true := by
  cases e with
  | finish n r =>
    cases r with
    | none => exact ⟨rfl, rfl⟩
    | some r => cases h
  | _ => cases h

end HttpGateway.Request
