/-
A slot that several hold at the same time.

* **claim**, **put** — the two steps of a call: it sets the flag, and if nobody had set it before it
  puts its response in. `respond_eq` says that a call is these two steps.
* **Event**, **Session** — what can happen to the slot of a request, whose calls come through the
  context and through clones; and a log of it, the last entry first. Between the two steps of a call
  others go on.
* **Reached** — the sessions to which runs lead.
* **Untouched**, **Claimed**, **Settled** — the three parts of a run: nobody has called, the first
  call is under way, and it has returned. `Reached.course` says that there are no others.
* `first_call_decides` — the first call is the only one that can count. It does exactly if the
  receiver is there when it puts its response in, and then the receiver gets this response and no
  other one.

The flag, what was put in and the life of the receiver are apart from each other. What ties them
together is that only the call that found the flag unset ever puts something in.
-/
import HttpGateway.Proofs.Keyed
import HttpGateway.Request.Context

namespace HttpGateway.Request.ReplySlot

open Http

/-! ### The steps of a call -/

/-- Sets the flag; tells whether it was not set before. -/
def claim (s : ReplySlot) : Bool × ReplySlot := (!s.terminated, { s with terminated := true })

/-- Puts a response in; tells whether the receiver still waits for it. -/
def put (s : ReplySlot) (r : Response) : Bool × ReplySlot :=
  if s.receiverGone then (false, { s with delivery := .over })
  else (true, { s with delivery := .ready r })

theorem claim_of_terminated {s : ReplySlot} (h : s.terminated = true) : s.claim = (false, s) := by
  obtain ⟨terminated, gone, delivery⟩ := s
  obtain rfl : terminated = true := h
  rfl

theorem respond_eq (s : ReplySlot) (r : Response) :
    s.respond r = if s.claim.1 then s.claim.2.put r else (false, s.claim.2) := by
  obtain ⟨terminated, gone, delivery⟩ := s
  cases terminated with
  | true => rfl
  | false => cases gone <;> rfl

/-! ### Events -/

/-- Where a call comes from: the context of the request, or a clone of its slot. -/
inductive Handle
  | context
  | clone (n : Nat)
deriving DecidableEq

/-- What happens to a slot. A call, which has a number, is made at once or in two steps. -/
inductive Event
  | respond (call : Nat) (through : Handle) (response : Response)
  | claim (call : Nat) (through : Handle) (response : Response)
  | put (call : Nat)
  | receive
  | dropReceiver

/-- What a log tells of a slot. -/
inductive Entry
  | begun (call : Nat) (through : Handle) (response : Response)
  | returned (call : Nat) (wrote : Bool)
  | received (receipt : Receipt)
  | dropped
deriving DecidableEq

namespace Entry

/-- Whether a call begins. -/
def isBegun : Entry → Bool
  | begun .. => true
  | _ => false

/-- Whether a call returns and its response counts. -/
def isWriting : Entry → Bool
  | returned _ wrote => wrote
  | _ => false

def isDropped : Entry → Bool
  | dropped => true
  | _ => false

/-- Whether a call with a number begins. -/
def begins (call : Nat) : Entry → Bool
  | begun n .. => n = call
  | _ => false

/-- What the receiver finds. -/
def receipt? : Entry → Option Receipt
  | received receipt => some receipt
  | _ => none

/-- Whether an entry leaves everything to one call: any other call that begins is another one, and
one that returns has not counted. -/
def leavesTo (call : Nat) : Entry → Bool
  | begun n .. => n ≠ call
  | returned n wrote => n ≠ call && !wrote
  | received _ | dropped => true

/-- Whether an entry is about the receiver and not about a call. -/
def isOfReceiver : Entry → Bool
  | begun .. | returned .. => false
  | received _ | dropped => true

end Entry

/-- What the receiver has found, in order. -/
def receipts (log : List Entry) : List Receipt := (log.filterMap Entry.receipt?).reverse

/-! ### Sessions -/

/-- A request whose slot is in use. `inside` are the calls that have set the flag first and have not
put their response in. -/
structure Session where
  context : Context
  inside : Keyed Nat Response
  log : List Entry

namespace Session

/-- A request to which nobody has responded. -/
def start (c : Context) : Session := ⟨{ c with slot := .fresh }, .empty, []⟩

/-- The slot of the request. -/
def slot (s : Session) : ReplySlot := s.context.slot

/-- The request with its slot changed. -/
def withSlot (s : Session) (slot : ReplySlot) : Session :=
  { s with context := { s.context with slot } }

/-- Responds through the context or a clone; tells whether it counts. -/
def respond (s : Session) (through : Handle) (r : Response) : Bool × Session :=
  match through with
  | .context => ((s.context.respond r).1, { s with context := (s.context.respond r).2 })
  | .clone _ => ((s.slot.respond r).1, s.withSlot (s.slot.respond r).2)

/-- Another entry in the log. -/
def noting (s : Session) (e : Entry) : Session := { s with log := e :: s.log }

/-- The session after an event. -/
def step (s : Session) : Event → Session
  | .respond n through r =>
    ((s.respond through r).2.noting (.begun n through r)).noting
      (.returned n (s.respond through r).1)
  | .claim n through r =>
    let begun := (s.withSlot s.slot.claim.2).noting (.begun n through r)
    if s.slot.claim.1 then { begun with inside := s.inside.set n r }
    else begun.noting (.returned n false)
  | .put n =>
    match s.inside.find n with
    | none => s
    | some r =>
      { (s.withSlot (s.slot.put r).2).noting (.returned n (s.slot.put r).1) with
        inside := s.inside.erase n }
  | .receive => (s.withSlot s.slot.receive.2).noting (.received s.slot.receive.1)
  | .dropReceiver => (s.withSlot s.slot.dropReceiver).noting .dropped

/-- Whether an event can happen: calls have different numbers, and a receiver that is gone neither
finds anything nor leaves again. -/
def admits (s : Session) : Event → Bool
  | .respond n .. | .claim n .. => !s.log.any (Entry.begins n)
  | .put n => s.inside.contains n
  | .receive | .dropReceiver => !s.slot.receiverGone

/-- The session after several events. -/
def run (s : Session) : List Event → Session
  | [] => s
  | e :: rest => (s.step e).run rest

/-- Whether events can happen one after another. -/
def canRun (s : Session) : List Event → Bool
  | [] => true
  | e :: rest => s.admits e && (s.step e).canRun rest

/-- Whether the receiver is gone, as the log tells. -/
def gone (s : Session) : Bool := s.log.any Entry.isDropped

@[simp] theorem withSlot_slot (s : Session) (slot : ReplySlot) :
    (s.withSlot slot).slot = slot := rfl

@[simp] theorem withSlot_log (s : Session) (slot : ReplySlot) : (s.withSlot slot).log = s.log := rfl

@[simp] theorem noting_slot (s : Session) (e : Entry) : (s.noting e).slot = s.slot := rfl

@[simp] theorem noting_log (s : Session) (e : Entry) : (s.noting e).log = e :: s.log := rfl

@[simp] theorem noting_gone (s : Session) (e : Entry) :
    (s.noting e).gone = (e.isDropped || s.gone) := rfl

variable {s : Session} {e : Event} {n : Nat} {through : Handle} {r : Response}

theorem respond_slot (s : Session) (through : Handle) (r : Response) :
    s.respond through r = ((s.slot.respond r).1, s.withSlot (s.slot.respond r).2) := by
  cases through <;> rfl

/-- A call that is made at once is its two steps with nothing in between. -/
theorem step_respond (h : s.slot.terminated = false → s.inside = .empty) :
    s.step (.respond n through r) =
      if s.slot.terminated then s.step (.claim n through r)
      else (s.step (.claim n through r)).step (.put n) := by
  rw [step, respond_slot, respond_eq]
  by_cases hterminated : s.slot.terminated = true
  · have hclaim : s.slot.claim.1 = false := by rw [claim, hterminated]; rfl
    simp only [step, hclaim, hterminated, if_true]
    rfl
  · have hclaim : s.slot.claim.1 = true := by
      rw [claim, Bool.eq_false_iff.mpr hterminated]
      rfl
    have hinside : s.inside = .empty := h (Bool.eq_false_iff.mpr hterminated)
    have hfind : (s.inside.set n r).find n = some r := Keyed.find_set_self ..
    have herase : (s.inside.set n r).erase n = s.inside := by
      rw [hinside]
      simp [Keyed.erase, Keyed.set, Keyed.setIn, Keyed.empty]
    rw [if_neg hterminated]
    simp only [step, hclaim, if_true, hfind, herase]
    rfl

end Session

/-- The sessions that can be reached from a new slot of a request. -/
inductive Reached (c : Context) : Session → Prop
  | start : Reached c (.start c)
  | step {s e} : Reached c s → s.admits e = true → Reached c (s.step e)

theorem Reached.run {c : Context} (events : List Event) :
    ∀ {s : Session}, Reached c s → s.canRun events = true → Reached c (s.run events) := by
  induction events with
  | nil => exact fun h _ => h
  | cons e rest ih =>
    intro s h hr
    obtain ⟨he, hrest⟩ := Bool.and_eq_true_iff.mp hr
    exact ih (h.step he) hrest

/-! ### The course of a run -/

variable {c : Context} {s : Session} {n : Nat} {through : Handle} {r : Response}
  {later earlier after mid : List Entry} {wrote : Bool}

@[simp] theorem receipts_cons (e : Entry) (log : List Entry) :
    receipts (e :: log) = receipts log ++ e.receipt?.toList := by
  cases h : e.receipt? <;> simp [receipts, h]

theorem receipts_append (l₁ l₂ : List Entry) :
    receipts (l₁ ++ l₂) = receipts l₂ ++ receipts l₁ := by
  rw [receipts, List.filterMap_append, List.reverse_append]
  rfl

/-- Nobody has called yet. -/
structure Untouched (s : Session) : Prop where
  before : ∀ e ∈ s.log, e.isOfReceiver = true
  found : ∀ x ∈ receipts s.log, x = .empty
  slot : s.slot = ⟨false, s.gone, .awaited⟩
  inside : s.inside = .empty

/-- What the first call with its number and response has left so far: what was in the log when it
began, what has come into it since, and that every other call has returned. -/
structure Led (s : Session) (n : Nat) (through : Handle) (r : Response)
    (later earlier : List Entry) : Prop where
  log : s.log = later ++ .begun n through r :: earlier
  before : ∀ e ∈ earlier, e.isOfReceiver = true
  others : ∀ m ≠ n, s.log.any (Entry.begins m) = true → .returned m false ∈ later

/-- The first call is under way. -/
structure Claimed (s : Session) (n : Nat) (through : Handle) (r : Response)
    (later earlier : List Entry) : Prop extends Led s n through r later earlier where
  since : ∀ e ∈ later, e.leavesTo n = true
  found : ∀ x ∈ receipts s.log, x = .empty
  slot : s.slot = ⟨true, s.gone, .awaited⟩
  inside : s.inside = ⟨[(n, r)]⟩

/-- What the receiver finds after the first call has returned, and where the response is. -/
inductive Delivered (r : Response) : Bool → List Receipt → Delivery → Prop
  | lost : Delivered r false [] .over
  | ready : Delivered r true [] (.ready r)
  | taken (k : Nat) : Delivered r true (.response r :: .replicate k .closed) .over

/-- The first call has returned: what came into the log between its steps, and after them. -/
structure Settled (s : Session) (n : Nat) (through : Handle) (r : Response) (wrote : Bool)
    (after mid earlier : List Entry) : Prop
    extends Led s n through r (after ++ .returned n wrote :: mid) earlier where
  since : ∀ e ∈ after ++ mid, e.leavesTo n = true
  found : ∀ x ∈ receipts (mid ++ .begun n through r :: earlier), x = .empty
  counts : wrote = !(mid ++ earlier).any Entry.isDropped
  terminated : s.slot.terminated = true
  gone : s.slot.receiverGone = s.gone
  delivered : Delivered r wrote (receipts after) s.slot.delivery
  inside : s.inside = .empty

/-- How far a run is. -/
inductive Course (s : Session) : Prop
  | untouched (h : Untouched s)
  | claimed (n : Nat) (through : Handle) (r : Response) (later earlier : List Entry)
      (h : Claimed s n through r later earlier)
  | settled (n : Nat) (through : Handle) (r : Response) (wrote : Bool)
      (after mid earlier : List Entry) (h : Settled s n through r wrote after mid earlier)

/-- The first call begins. -/
theorem Untouched.claim (h : Untouched s) (through : Handle) (r : Response) :
    Claimed (s.step (.claim n through r)) n through r [] s.log := by
  have hstep : s.step (.claim n through r)
      = { (s.withSlot ⟨true, s.gone, .awaited⟩).noting (.begun n through r) with
          inside := ⟨[(n, r)]⟩ } := by
    simp only [Session.step, ReplySlot.claim, h.slot, h.inside]
    rfl
  rw [hstep]
  refine ⟨⟨rfl, h.before, ?_⟩, fun e he => absurd he List.not_mem_nil, ?_, rfl, rfl⟩
  · intro m hm hbegun
    obtain ⟨e, he, hem⟩ := List.any_eq_true.mp hbegun
    rcases List.mem_cons.mp he with rfl | he
    · exact absurd (of_decide_eq_true hem).symm hm
    · have := h.before e he
      cases e <;> simp_all [Entry.isOfReceiver, Entry.begins]
  · intro x hx
    rw [Session.noting_log, receipts_cons, Session.withSlot_log] at hx
    exact h.found x (by simpa [Entry.receipt?] using hx)

/-- As long as nothing was put in the receiver finds nothing. -/
theorem step_receive_awaited (h : s.slot.delivery = .awaited) :
    s.step .receive = s.noting (.received .empty) := by
  have hreceive : s.slot.receive = (.empty, s.slot) := by rw [ReplySlot.receive, h]
  rw [Session.step, hreceive]
  rfl

theorem receipts_received_empty {log : List Entry} (h : ∀ x ∈ receipts log, x = .empty) :
    ∀ x ∈ receipts (.received .empty :: log), x = .empty := by
  intro x hx
  rw [receipts_cons] at hx
  rcases List.mem_append.mp hx with hold | hnew
  · exact h x hold
  · exact List.mem_singleton.mp hnew

theorem Untouched.receive (h : Untouched s) : Untouched (s.step .receive) := by
  rw [step_receive_awaited (by rw [h.slot])]
  exact ⟨List.forall_mem_cons.mpr ⟨rfl, h.before⟩, receipts_received_empty h.found, h.slot,
    h.inside⟩

theorem Untouched.dropReceiver (h : Untouched s) : Untouched (s.step .dropReceiver) := by
  refine ⟨List.forall_mem_cons.mpr ⟨rfl, h.before⟩, ?_, ?_, h.inside⟩
  · simpa [Session.step, Entry.receipt?] using h.found
  · simp [Session.step, ReplySlot.dropReceiver, Entry.isDropped, h.slot]

/-- A call that comes second finds the flag set, and returns at once. -/
theorem step_claim_late (h : s.slot.terminated = true) (m : Nat) (through : Handle) (r : Response) :
    s.step (.claim m through r)
      = (s.noting (.begun m through r)).noting (.returned m false) := by
  rw [Session.step, claim_of_terminated h]
  rfl

theorem Led.extend {s' : Session} (h : Led s n through r later earlier) (es : List Entry)
    (hlog : s'.log = es ++ s.log)
    (hes : ∀ m ≠ n, es.any (Entry.begins m) = true → .returned m false ∈ es) :
    Led s' n through r (es ++ later) earlier := by
  refine ⟨by rw [hlog, h.log, List.append_assoc], h.before, ?_⟩
  intro m hm hbegun
  rw [hlog, List.any_append, Bool.or_eq_true] at hbegun
  rcases hbegun with hnew | hold
  · exact List.mem_append_left _ (hes m hm hnew)
  · exact List.mem_append_right _ (h.others m hm hold)

theorem Led.any_isBegun (h : Led s n through r later earlier) :
    s.log.any Entry.isBegun = true := by
  rw [h.log, List.any_append, List.any_cons]
  simp [Entry.isBegun]

/-- What comes into the log is not the beginning of a call. -/
theorem Led.noting {s' : Session} {e : Entry} (h : Led s n through r later earlier)
    (hlog : s'.log = e :: s.log) (he : e.isBegun = false) :
    Led s' n through r (e :: later) earlier := by
  refine h.extend [e] hlog ?_
  intro m _ hbegun
  cases e with
  | begun => cases he
  | _ => simp [Entry.begins] at hbegun

/-- Another call begins and returns at once. -/
theorem Led.late {s' : Session} {m : Nat} {through' : Handle} {r' : Response}
    (h : Led s n through r later earlier)
    (hlog : s'.log = .returned m false :: .begun m through' r' :: s.log) :
    Led s' n through r (.returned m false :: .begun m through' r' :: later) earlier := by
  refine h.extend [.returned m false, .begun m through' r'] hlog ?_
  intro k _ hk
  obtain rfl : m = k := by simpa [Entry.begins] using hk
  exact List.mem_cons_self

/-- A call that begins now is not the first one. -/
theorem Led.ne {m : Nat} {through' : Handle} {r' : Response}
    (h : Led s n through r later earlier) (ha : s.admits (.claim m through' r') = true) :
    m ≠ n := by
  rintro rfl
  simp [Session.admits, h.log, Entry.begins] at ha

theorem Claimed.claim {m : Nat} {through' : Handle} {r' : Response}
    (h : Claimed s n through r later earlier) (ha : s.admits (.claim m through' r') = true) :
    Claimed (s.step (.claim m through' r')) n through r
      (.returned m false :: .begun m through' r' :: later) earlier := by
  have hm : m ≠ n := h.ne ha
  have hterminated : s.slot.terminated = true := by rw [h.slot]
  rw [step_claim_late hterminated]
  refine ⟨h.late rfl, ?_, ?_, ?_, h.inside⟩
  · simpa [Entry.leavesTo, hm] using h.since
  · simpa [Entry.receipt?] using h.found
  · simpa [Entry.isDropped] using h.slot

theorem Claimed.receive (h : Claimed s n through r later earlier) :
    Claimed (s.step .receive) n through r (.received .empty :: later) earlier := by
  rw [step_receive_awaited (by rw [h.slot])]
  exact ⟨h.noting rfl rfl, List.forall_mem_cons.mpr ⟨rfl, h.since⟩,
    receipts_received_empty h.found, h.slot, h.inside⟩

theorem Claimed.dropReceiver (h : Claimed s n through r later earlier) :
    Claimed (s.step .dropReceiver) n through r (.dropped :: later) earlier := by
  refine ⟨h.noting rfl rfl, List.forall_mem_cons.mpr ⟨rfl, h.since⟩, ?_, ?_, h.inside⟩
  · simpa [Session.step, Entry.receipt?] using h.found
  · simp [Session.step, ReplySlot.dropReceiver, Entry.isDropped, h.slot]

/-- The first call returns. It counts if the receiver is there. -/
theorem Claimed.put (h : Claimed s n through r later earlier) :
    Settled (s.step (.put n)) n through r (!s.gone) [] later earlier := by
  have hfind : s.inside.find n = some r := by rw [h.inside]; simp [Keyed.find, Keyed.findIn]
  have hgone : s.gone = (later ++ earlier).any Entry.isDropped := by
    rw [Session.gone, h.log]
    simp [Entry.isDropped]
  have hput : s.slot.put r
      = (!s.gone, ⟨true, s.gone, if s.gone then .over else .ready r⟩) := by
    rw [h.slot]
    cases s.gone <;> rfl
  have hstep : s.step (.put n)
      = { (s.withSlot ⟨true, s.gone, if s.gone then .over else .ready r⟩).noting
            (.returned n !s.gone) with inside := .empty } := by
    have herase : s.inside.erase n = .empty := by
      rw [h.inside]
      simp [Keyed.erase, Keyed.empty]
    simp only [Session.step, hfind, hput, herase]
  rw [hstep]
  refine ⟨h.noting rfl rfl, h.since, h.log ▸ h.found, by rw [hgone], rfl, rfl, ?_, rfl⟩
  show Delivered r (!s.gone) [] (if s.gone then .over else .ready r)
  cases s.gone
  · exact .ready
  · exact .lost

theorem Settled.claim {m : Nat} {through' : Handle} {r' : Response}
    (h : Settled s n through r wrote after mid earlier)
    (ha : s.admits (.claim m through' r') = true) :
    Settled (s.step (.claim m through' r')) n through r wrote
      (.returned m false :: .begun m through' r' :: after) mid earlier := by
  have hm : m ≠ n := h.ne ha
  rw [step_claim_late h.terminated]
  refine ⟨h.late rfl, ?_, h.found, h.counts, h.terminated, ?_, ?_, h.inside⟩
  · simpa [Entry.leavesTo, hm] using h.since
  · simpa [Entry.isDropped] using h.gone
  · simpa [Entry.receipt?] using h.delivered

theorem receive_terminated (slot : ReplySlot) : slot.receive.2.terminated = slot.terminated := by
  obtain ⟨terminated, gone, delivery⟩ := slot
  cases delivery <;> rfl

theorem receive_receiverGone (slot : ReplySlot) :
    slot.receive.2.receiverGone = slot.receiverGone := by
  obtain ⟨terminated, gone, delivery⟩ := slot
  cases delivery <;> rfl

theorem Delivered.receive {slot : ReplySlot} {found : List Receipt}
    (h : Delivered r true found slot.delivery) :
    Delivered r true (found ++ [slot.receive.1]) slot.receive.2.delivery := by
  obtain ⟨terminated, gone, delivery⟩ := slot
  cases h with
  | ready => exact .taken 0
  | taken k =>
    show Delivered r true (.response r :: .replicate k .closed ++ [.closed]) .over
    rw [List.cons_append, ← List.replicate_succ']
    exact .taken (k + 1)

theorem Delivered.nothing {found : List Receipt} {d : Delivery} (h : Delivered r false found d) :
    found = [] := by
  cases h with
  | lost => rfl

/-- The response waits for the receiver, or was the first thing that it found. -/
theorem Delivered.exactly {slot : ReplySlot} {found : List Receipt}
    (h : Delivered r true found slot.delivery) :
    found = [] ∧ slot.receive.1 = .response r ∨
      ∃ k, found = .response r :: List.replicate k .closed := by
  obtain ⟨terminated, gone, delivery⟩ := slot
  cases h with
  | ready => exact .inl ⟨rfl, rfl⟩
  | taken k => exact .inr ⟨k, rfl⟩

/-- A receiver that is still there was there for the response. -/
theorem Settled.wrote_of_waits (h : Settled s n through r wrote after mid earlier)
    (hgone : s.gone = false) : wrote = true := by
  rw [Session.gone, h.log] at hgone
  simp only [List.any_append, List.any_cons, Bool.or_eq_false_iff] at hgone
  rw [h.counts, Bool.not_eq_true', List.any_append, hgone.1.2.2, hgone.2.2]
  rfl

theorem Settled.receive (h : Settled s n through r wrote after mid earlier)
    (ha : s.admits .receive = true) :
    Settled (s.step .receive) n through r wrote (.received s.slot.receive.1 :: after) mid
      earlier := by
  refine ⟨h.noting rfl rfl, List.forall_mem_cons.mpr ⟨rfl, h.since⟩, h.found, h.counts, ?_, ?_, ?_,
    h.inside⟩
  · exact (receive_terminated s.slot).trans h.terminated
  · exact (receive_receiverGone s.slot).trans h.gone
  · have hgone : s.gone = false := by
      rw [← h.gone]
      exact (Bool.not_eq_true' _).mp ha
    obtain rfl : wrote = true := h.wrote_of_waits hgone
    rw [receipts_cons]
    exact h.delivered.receive

theorem Settled.dropReceiver (h : Settled s n through r wrote after mid earlier) :
    Settled (s.step .dropReceiver) n through r wrote (.dropped :: after) mid earlier := by
  refine ⟨h.noting rfl rfl, List.forall_mem_cons.mpr ⟨rfl, h.since⟩, h.found, h.counts,
    h.terminated, ?_, ?_, h.inside⟩
  · simp [Session.step, ReplySlot.dropReceiver, Entry.isDropped]
  · simpa [Session.step, ReplySlot.dropReceiver, Entry.receipt?] using h.delivered

theorem Course.claim (h : Course s) (ha : s.admits (.claim n through r) = true) :
    Course (s.step (.claim n through r)) := by
  cases h with
  | untouched h => exact .claimed _ _ _ _ _ (h.claim through r)
  | claimed _ _ _ _ _ h => exact .claimed _ _ _ _ _ (h.claim ha)
  | settled _ _ _ _ _ _ _ h => exact .settled _ _ _ _ _ _ _ (h.claim ha)

/-- A call that is made at once is the first one and returns, or comes second. -/
theorem Course.respond (h : Course s) (ha : s.admits (.respond n through r) = true) :
    Course (s.step (.respond n through r)) := by
  have hclaim : Course (s.step (.claim n through r)) := h.claim ha
  -- Only a call that nobody has come before makes the second step; any other stops at the flag.
  cases h with
  | untouched h =>
    have hterminated : s.slot.terminated = false := by rw [h.slot]
    rw [Session.step_respond fun _ => h.inside, hterminated, if_neg Bool.false_ne_true]
    exact .settled _ _ _ _ _ _ _ (h.claim through r).put
  | claimed _ _ _ _ _ h =>
    have hterminated : s.slot.terminated = true := by rw [h.slot]
    rw [Session.step_respond (by simp [hterminated]), if_pos hterminated]
    exact hclaim
  | settled _ _ _ _ _ _ _ h =>
    rw [Session.step_respond (by simp [h.terminated]), if_pos h.terminated]
    exact hclaim

/-- No event leaves the course. -/
theorem Course.step {e : Event} (h : Course s) (ha : s.admits e = true) : Course (s.step e) := by
  cases e with
  | respond n through r => exact h.respond ha
  | claim n through r => exact h.claim ha
  | put n =>
    cases h with
    | untouched h => simp [Session.admits, h.inside, Keyed.contains] at ha
    | claimed m _ r _ _ h =>
      have hn : n ∈ s.inside.keys := Keyed.contains_iff.mp ha
      rw [h.inside] at hn
      obtain rfl : n = m := List.mem_singleton.mp hn
      exact .settled _ _ _ _ _ _ _ h.put
    | settled _ _ _ _ _ _ _ h => simp [Session.admits, h.inside, Keyed.contains] at ha
  | receive =>
    cases h with
    | untouched h => exact .untouched h.receive
    | claimed _ _ _ _ _ h => exact .claimed _ _ _ _ _ h.receive
    | settled _ _ _ _ _ _ _ h => exact .settled _ _ _ _ _ _ _ (h.receive ha)
  | dropReceiver =>
    cases h with
    | untouched h => exact .untouched h.dropReceiver
    | claimed _ _ _ _ _ h => exact .claimed _ _ _ _ _ h.dropReceiver
    | settled _ _ _ _ _ _ _ h => exact .settled _ _ _ _ _ _ _ h.dropReceiver

theorem Reached.course (h : Reached c s) : Course s := by
  induction h with
  | start => exact .untouched ⟨fun e he => absurd he List.not_mem_nil,
      fun x hx => absurd hx List.not_mem_nil, rfl, rfl⟩
  | step _ ha ih => exact ih.step ha

theorem Course.gone (h : Course s) : s.slot.receiverGone = s.gone := by
  cases h with
  | untouched h => rw [h.slot]
  | claimed _ _ _ _ _ h => rw [h.slot]
  | settled _ _ _ _ _ _ _ h => exact h.gone

/-- Once the receiver is gone nothing is found. -/
theorem Reached.pairwise_dropped (h : Reached c s) :
    s.log.Pairwise fun newer older => older = .dropped → newer.receipt? = none := by
  induction h with
  | start => exact List.Pairwise.nil
  | @step s e h ha ih =>
    cases e with
    | respond n through r =>
      rw [Session.step, Session.respond_slot]
      exact (ih.cons fun _ _ _ => rfl).cons fun _ _ _ => rfl
    | claim n through r =>
      rw [Session.step]
      by_cases hclaim : s.slot.claim.1 = true
      · rw [if_pos hclaim]
        exact ih.cons fun _ _ _ => rfl
      · rw [if_neg hclaim]
        exact (ih.cons fun _ _ _ => rfl).cons fun _ _ _ => rfl
    | put n =>
      rw [Session.step]
      cases s.inside.find n with
      | none => exact ih
      | some r => exact ih.cons fun _ _ _ => rfl
    | receive =>
      -- the only event that finds something, and it needs a receiver
      refine ih.cons fun older holder hdropped => ?_
      have hgone : s.gone = true := List.any_eq_true.mpr ⟨older, holder, by rw [hdropped]; rfl⟩
      rw [← h.course.gone] at hgone
      simp [Session.admits, hgone] at ha
    | dropReceiver => exact ih.cons fun _ _ _ => rfl

theorem Reached.receipts_of_dropped (h : Reached c s) {l₁ l₂ : List Entry} (hlog : s.log = l₁ ++ l₂)
    (hdropped : .dropped ∈ l₂) : receipts l₁ = [] := by
  have hpairs := h.pairwise_dropped
  rw [hlog, List.pairwise_append] at hpairs
  have hnone : l₁.filterMap Entry.receipt? = [] :=
    List.filterMap_eq_nil_iff.mpr fun e he => hpairs.2.2 e he .dropped hdropped rfl
  rw [receipts, hnone]
  rfl

/-! ### The first call -/

/-- What the first call, with its number and response, decides, when the log holds `earlier` before
its beginning and `later` after it. -/
structure Decided (s : Session) (n : Nat) (r : Response) (later earlier : List Entry) : Prop where
  /-- Before it nothing is found. -/
  before : ∀ x ∈ receipts earlier, x = .empty
  /-- Every other call returns, and does not count. -/
  others : ∀ m ≠ n, .returned m true ∉ s.log ∧
    (s.log.any (Entry.begins m) = true → .returned m false ∈ s.log)
  /-- If the receiver was gone before it, no call counts and nothing is found any more. -/
  late : .dropped ∈ earlier → (∀ m, .returned m true ∉ s.log) ∧ receipts later = []
  /-- It is still to put its response in, or has returned. It counts exactly if the receiver was
  there until then; and in that case the receiver finds its response, once, and no other one. -/
  outcome :
    (s.admits (.put n) = true ∧ (∀ b, .returned n b ∉ s.log) ∧ ∀ x ∈ receipts later, x = .empty) ∨
    ∃ after wrote mid, later = after ++ .returned n wrote :: mid ∧
      (wrote = true ↔ .dropped ∉ mid ++ earlier) ∧
      (∀ b, .returned n b ∉ after ++ mid) ∧
      (∀ x ∈ receipts mid, x = .empty) ∧
      (wrote = false → receipts after = []) ∧
      (wrote = true → receipts after = [] ∧ s.slot.receive.1 = .response r ∨
        ∃ k, receipts after = .response r :: List.replicate k .closed)

theorem Entry.isWriting_of_isOfReceiver {e : Entry} (h : e.isOfReceiver = true) :
    e.isWriting = false := by
  cases e <;> simp_all [isOfReceiver, isWriting]

theorem Entry.isWriting_of_leavesTo {e : Entry} (h : e.leavesTo n = true) :
    e.isWriting = false := by
  cases e <;> simp_all [leavesTo, isWriting]

theorem Entry.isBegun_of_isOfReceiver {e : Entry} (h : e.isOfReceiver = true) :
    e.isBegun = false := by
  cases e <;> simp_all [isOfReceiver, isBegun]

/-- While the first call is under way no call has counted. -/
theorem Claimed.isWriting_eq (h : Claimed s n through r later earlier) {e : Entry}
    (he : e ∈ s.log) : e.isWriting = false := by
  rw [h.log] at he
  rcases List.mem_append.mp he with he | he
  · exact Entry.isWriting_of_leavesTo (h.since e he)
  · rcases List.mem_cons.mp he with rfl | he
    · rfl
    · exact Entry.isWriting_of_isOfReceiver (h.before e he)

/-- Only the first call can count. -/
theorem Settled.eq_of_isWriting (h : Settled s n through r wrote after mid earlier) {e : Entry}
    (he : e ∈ s.log) (hwriting : e.isWriting = true) : e = .returned n wrote := by
  rw [h.log, List.append_assoc, List.cons_append, List.mem_append, List.mem_cons, List.mem_append,
    List.mem_cons] at he
  rcases he with hafter | rfl | hmid | rfl | hearlier
  · have := Entry.isWriting_of_leavesTo (h.since e (List.mem_append_left _ hafter))
    rw [this] at hwriting
    cases hwriting
  · rfl
  · have := Entry.isWriting_of_leavesTo (h.since e (List.mem_append_right _ hmid))
    rw [this] at hwriting
    cases hwriting
  · cases hwriting
  · have := Entry.isWriting_of_isOfReceiver (h.before e hearlier)
    rw [this] at hwriting
    cases hwriting

theorem Settled.countP_isWriting (h : Settled s n through r wrote after mid earlier) :
    s.log.countP Entry.isWriting ≤ 1 := by
  have hafter : after.countP Entry.isWriting = 0 := List.countP_eq_zero.mpr fun e he => by
    simp [Entry.isWriting_of_leavesTo (h.since e (List.mem_append_left _ he))]
  have hmid : mid.countP Entry.isWriting = 0 := List.countP_eq_zero.mpr fun e he => by
    simp [Entry.isWriting_of_leavesTo (h.since e (List.mem_append_right _ he))]
  have hearlier : earlier.countP Entry.isWriting = 0 := List.countP_eq_zero.mpr fun e he => by
    simp [Entry.isWriting_of_isOfReceiver (h.before e he)]
  rw [h.log, List.countP_append, List.countP_append, List.countP_cons, List.countP_cons, hafter,
    hmid, hearlier]
  cases wrote <;> simp [Entry.isWriting]

theorem Claimed.decided (hs : Reached c s) (h : Claimed s n through r later earlier) :
    Decided s n r later earlier := by
  have hnone : ∀ m, .returned m true ∉ s.log := fun m hm => by
    cases h.isWriting_eq hm
  have hfound : ∀ x ∈ receipts earlier ++ receipts later, x = .empty := by
    have := h.found
    rw [h.log, receipts_append, receipts_cons] at this
    simpa [Entry.receipt?] using this
  refine ⟨fun x hx => hfound x (List.mem_append_left _ hx), fun m hm => ⟨hnone m, fun hb => ?_⟩,
    fun hdropped => ⟨hnone, ?_⟩, .inl ⟨?_, ?_, fun x hx => hfound x (List.mem_append_right _ hx)⟩⟩
  · rw [h.log]
    exact List.mem_append_left _ (h.others m hm hb)
  · exact hs.receipts_of_dropped h.log (List.mem_cons_of_mem _ hdropped)
  · rw [Session.admits, h.inside]
    simp [Keyed.contains, Keyed.find, Keyed.findIn]
  · intro b hb
    rw [h.log, List.mem_append, List.mem_cons] at hb
    rcases hb with hlater | hbegun | hearlier
    · simpa [Entry.leavesTo] using h.since _ hlater
    · cases hbegun
    · cases h.before _ hearlier

theorem Settled.decided (hs : Reached c s) (h : Settled s n through r wrote after mid earlier) :
    Decided s n r (after ++ .returned n wrote :: mid) earlier := by
  have hcounts : wrote = true ↔ .dropped ∉ mid ++ earlier := by
    rw [h.counts, Bool.not_eq_true', Bool.eq_false_iff]
    refine not_congr (List.any_eq_true.trans ⟨?_, fun hdropped => ⟨_, hdropped, rfl⟩⟩)
    rintro ⟨e, he, hdropped⟩
    cases e <;> first | exact he | cases hdropped
  have hfound : ∀ x ∈ receipts earlier ++ receipts mid, x = .empty := by
    have := h.found
    rw [receipts_append, receipts_cons] at this
    simpa [Entry.receipt?] using this
  refine ⟨fun x hx => hfound x (List.mem_append_left _ hx),
    fun m hm => ⟨fun hw => ?_, fun hb => ?_⟩, fun hdropped => ⟨fun m hw => ?_, ?_⟩,
    .inr ⟨after, wrote, mid, rfl, hcounts, ?_, fun x hx => hfound x (List.mem_append_right _ hx),
      ?_, ?_⟩⟩
  · cases h.eq_of_isWriting hw rfl
    exact hm rfl
  · rw [h.log]
    exact List.mem_append_left _ (h.others m hm hb)
  · cases h.eq_of_isWriting hw rfl
    exact hcounts.mp rfl (List.mem_append_right _ hdropped)
  · exact hs.receipts_of_dropped h.log (List.mem_cons_of_mem _ hdropped)
  · intro b hb
    simpa [Entry.leavesTo] using h.since _ hb
  · rintro rfl
    exact h.delivered.nothing
  · rintro rfl
    exact h.delivered.exactly

/-- **The first call decides.** At most one call counts, and the flag is set from the first one on.
Until a call begins nothing is found; once one has begun there is a first one, and what `Decided`
says holds of it. -/
theorem first_call_decides (h : Reached c s) :
    s.log.countP Entry.isWriting ≤ 1 ∧
      s.slot.terminated = s.log.any Entry.isBegun ∧
      (s.log.any Entry.isBegun = false → ∀ x ∈ receipts s.log, x = .empty) ∧
      (s.log.any Entry.isBegun = true → ∃ later n through r earlier,
        s.log = later ++ .begun n through r :: earlier ∧ (∀ e ∈ earlier, e.isBegun = false) ∧
          Decided s n r later earlier) := by
  cases h.course with
  | untouched hs =>
    have hbegun : s.log.any Entry.isBegun = false :=
      List.any_eq_false.mpr fun e he => by simp [Entry.isBegun_of_isOfReceiver (hs.before e he)]
    have hwriting : s.log.countP Entry.isWriting = 0 :=
      List.countP_eq_zero.mpr fun e he => by simp [Entry.isWriting_of_isOfReceiver (hs.before e he)]
    refine ⟨by omega, ?_, fun _ => hs.found, fun hany => ?_⟩
    · rw [hbegun, hs.slot]
    · rw [hbegun] at hany
      cases hany
  | claimed n through r later earlier hs =>
    have hwriting : s.log.countP Entry.isWriting = 0 :=
      List.countP_eq_zero.mpr fun e he => by simp [hs.isWriting_eq he]
    refine ⟨by omega, ?_, fun hany => ?_, fun _ => ⟨later, n, through, r, earlier, hs.log, ?_,
      hs.decided h⟩⟩
    · rw [hs.slot, hs.any_isBegun]
    · rw [hs.any_isBegun] at hany
      cases hany
    · exact fun e he => Entry.isBegun_of_isOfReceiver (hs.before e he)
  | settled n through r wrote after mid earlier hs =>
    refine ⟨?_, ?_, fun hany => ?_, fun _ => ⟨_, n, through, r, earlier, hs.log, ?_,
      hs.decided h⟩⟩
    · exact hs.countP_isWriting
    · rw [hs.terminated, hs.any_isBegun]
    · rw [hs.any_isBegun] at hany
      cases hany
    · exact fun e he => Entry.isBegun_of_isOfReceiver (hs.before e he)

/-- A call from a clone is under way when the context responds too. The context comes second; the
receiver finds nothing at first, then the response of the clone, and leaves. A call after that does
not count either. -/
theorem first_call_decides_between_steps :
    let fine : Response := .plain .ok "fine"
    let late : Response := .plain .serviceUnavailable "late"
    let c : Context := .ofRequest "a1" "GET" ⟨none, none, ['/'], none⟩ .empty emptyBody
      ⟨.v4 [10, 0, 0, 1], 4000⟩
    let events := [.receive, .claim 0 (.clone 0) fine, .respond 1 .context late, .receive, .put 0,
      .receive, .receive, .dropReceiver, .respond 2 (.clone 1) late]
    let s := (Session.start c).run events
    Reached c s ∧ s.slot.terminated = true ∧ s.log.countP Entry.isWriting = 1 ∧
      .returned 0 true ∈ s.log ∧ (∀ m ≠ 0, .returned m true ∉ s.log) ∧
      receipts s.log = [.empty, .empty, .response fine, .closed] := by
  intro fine late c events s
  have hs : Reached c s := .run events .start (by decide +kernel)
  obtain ⟨hone, hterminated, -, hfirst⟩ := first_call_decides hs
  have hwrote : Entry.returned 0 true ∈ s.log := by decide +kernel
  have hbegun : s.log.any Entry.isBegun = true := by decide +kernel
  refine ⟨hs, hterminated.trans hbegun, ?_, hwrote, ?_, by decide +kernel⟩
  · have : 0 < s.log.countP Entry.isWriting := List.countP_pos_iff.mpr ⟨_, hwrote, rfl⟩
    omega
  · obtain ⟨later, n, through, r, earlier, -, -, hdecided⟩ := hfirst hbegun
    intro m hm
    refine (hdecided.others m ?_).1
    -- the first call is the one that counts
    rintro rfl
    exact (hdecided.others 0 hm.symm).1 hwrote

end HttpGateway.Request.ReplySlot
