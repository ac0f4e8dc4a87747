/-
How a body is handed over, and what the exchange notices of it.

* **Happening** — what a connection does after a request was handed to it: it asks the body for bytes
  or lets it go, and the response comes, or the end of the connection.
* **noticed** — what the exchange notices of that: all that comes from the other side, and the signal
  of the body.
* `awaitHead_handled`, `readBody_handled` — what the signal of the body changes for an exchange.
* **Taken** — whether the connection has taken the body by some time.
* `written_iff_taken` — the signal says so.

The signal is that of the body itself, so nothing here depends on how a body finds out.
-/
import HttpGateway.Forward.Exchange

namespace HttpGateway.Forward

open Http

/-- What a connection does after a request was handed to it. A frame of the response that holds no
data is an empty piece. -/
inductive Happening
  | asked
  | letGo
  | head (status : Status) (fields : Fields)
  | piece (bytes : ByteArray)
  | finished
  | broken (reason : String)
deriving DecidableEq

/-- What a connection does, in order of time. -/
abbrev Happenings := List (Instant × Happening)

/-- What the exchange notices when a body gives its signal. -/
def WriteSignal.arrival? : WriteSignal → Option Arrival
  | .waiting => none
  | .written => some .bodyTaken
  | .dropped => some .bodyDropped

namespace Happening

/-- Whether something is done to the body of the request. -/
def Handles : Happening → Prop
  | asked | letGo => True
  | _ => False

/-- Whether something ends the wait for a head. -/
def Answers : Happening → Prop
  | head .. | broken _ => True
  | _ => False

/-- Whether something ends a wait for a piece of the response. -/
def IsFrame : Happening → Prop
  | piece _ | finished | broken _ => True
  | _ => False

/-- Whether something ends the body of the response. -/
def Ends : Happening → Prop
  | finished | broken _ => True
  | _ => False

/-- The bytes of a piece. -/
def piece? : Happening → Option ByteArray
  | piece bytes => some bytes
  | _ => none

/-- What becomes of the body of the request. -/
def bodyAfter (b : TrackedBody) : Happening → TrackedBody
  | asked => b.frame.2
  | letGo => b.drop
  | _ => b

/-- What the exchange notices. A body gives its signal once. -/
def arrival? (b : TrackedBody) : Happening → Option Arrival
  | asked => if b.signal = .waiting then b.frame.2.signal.arrival? else none
  | letGo => if b.signal = .waiting then b.drop.signal.arrival? else none
  | head status fields => some (.head status fields)
  | piece bytes => some (.piece bytes)
  | finished => some .finished
  | broken reason => some (.broken reason)

end Happening

/-- What the exchange notices of what the connection does. -/
def noticed (b : TrackedBody) : Happenings → Schedule
  | [] => []
  | (due, h) :: rest => ((h.arrival? b).map (due, ·)).toList ++ noticed (h.bodyAfter b) rest

/-- The body after all that was done to it. -/
def bodyAfterAll (b : TrackedBody) (past : Happenings) : TrackedBody :=
  past.foldl (fun b e => e.2.bodyAfter b) b

variable {b : TrackedBody} {h : Happening} {due t : Instant} {past rest events : Happenings}

/-- What is earlier stands before, also where things happen at one time. -/
theorem mem_before_of_lt {e e' : Instant × Happening}
    (hordered : (past ++ e :: rest).Pairwise (·.1 ≤ ·.1)) (hmem : e' ∈ past ++ e :: rest)
    (hlt : e'.1 < e.1) : e' ∈ past := by
  have hlater := (List.pairwise_cons.mp (List.pairwise_append.mp hordered).2.1).1
  rcases List.mem_append.mp hmem with hpast | hmem
  · exact hpast
  rcases List.mem_cons.mp hmem with rfl | hmem
  · exact absurd hlt (Nat.lt_irrefl _)
  · exact absurd hlt (Nat.not_lt_of_le (hlater e' hmem))

/-- In the order of time, what is earlier stands before. -/
theorem mem_before_iff {e e' : Instant × Happening}
    (hordered : (past ++ e :: rest).Pairwise (·.1 < ·.1)) (hmem : e' ∈ past ++ e :: rest) :
    e'.1 < e.1 ↔ e' ∈ past := by
  obtain ⟨-, -, hbefore⟩ := List.pairwise_append.mp hordered
  exact ⟨mem_before_of_lt (hordered.imp Nat.le_of_lt) hmem,
    fun hpast => hbefore e' hpast e List.mem_cons_self⟩

/-! ### The signal of a body -/

theorem bodyAfter_of_not_handles (hh : ¬ h.Handles) : h.bodyAfter b = b := by
  cases h with
  | asked | letGo => exact absurd trivial hh
  | _ => rfl

/-- A body to which something was done has given its signal: that it was taken if it was asked, or
if there was nothing to take. -/
theorem signal_handled (hh : h.Handles) (hwaiting : b.signal = .waiting) :
    (h.bodyAfter b).signal = if h = .asked ∨ b.data = none then .written else .dropped := by
  cases h with
  | asked => simp [Happening.bodyAfter, TrackedBody.frame, TrackedBody.signalWritten, hwaiting]
  | letGo =>
    cases hdata : b.data <;>
      simp [Happening.bodyAfter, TrackedBody.drop, TrackedBody.signalWritten, hwaiting, hdata]
  | _ => exact hh.elim

/-- A signal once given stays. -/
theorem signal_kept (hgiven : b.signal ≠ .waiting) : (h.bodyAfter b).signal = b.signal := by
  cases h with
  | asked => simp [Happening.bodyAfter, TrackedBody.frame, TrackedBody.signalWritten, hgiven]
  | letGo =>
    cases hdata : b.data <;>
      simp [Happening.bodyAfter, TrackedBody.drop, TrackedBody.signalWritten, hgiven, hdata]
  | _ => rfl

/-- A body to which something was done has given its signal, then or before. -/
theorem signal_given (hh : h.Handles) : (h.bodyAfter b).signal ≠ .waiting := by
  by_cases hwaiting : b.signal = .waiting
  · rw [signal_handled hh hwaiting]
    split <;> simp
  · rwa [signal_kept hwaiting]

theorem signal_bodyAfterAll_kept (hgiven : b.signal ≠ .waiting) :
    (bodyAfterAll b past).signal = b.signal := by
  induction past generalizing b with
  | nil => rfl
  | cons e rest ih =>
    have hkept := signal_kept (h := e.2) hgiven
    exact (ih (b := e.2.bodyAfter b) (hkept ▸ hgiven)).trans hkept

theorem bodyAfterAll_append (b : TrackedBody) (past : Happenings) (e : Instant × Happening) :
    bodyAfterAll b (past ++ [e]) = e.2.bodyAfter (bodyAfterAll b past) := by
  simp [bodyAfterAll]

theorem bodyAfterAll_of_untouched (hpast : ∀ e ∈ past, ¬ e.2.Handles) : bodyAfterAll b past = b := by
  induction past generalizing b with
  | nil => rfl
  | cons e rest ih =>
    obtain ⟨hfirst, hrest⟩ := List.forall_mem_cons.mp hpast
    exact (ih (b := e.2.bodyAfter b) hrest).trans (bodyAfter_of_not_handles hfirst)

/-- A body that has not given its signal is one to which nothing was done. -/
theorem untouched_of_waiting (hwaiting : (bodyAfterAll b past).signal = .waiting) :
    ∀ e ∈ past, ¬ e.2.Handles := by
  intro e he hh
  obtain ⟨earlier, later, rfl⟩ := List.append_of_mem he
  have hlast : bodyAfterAll b (earlier ++ e :: later)
      = bodyAfterAll (e.2.bodyAfter (bodyAfterAll b earlier)) later := by
    simp [bodyAfterAll]
  rw [hlast, signal_bodyAfterAll_kept (signal_given hh)] at hwaiting
  exact signal_given hh hwaiting

/-! ### What it changes for an exchange -/

/-- Nothing that comes when the wait is over is heard of. -/
theorem awaitHead_late {x : Terms} {signal : WriteSignal} {a : Arrival} {s : Schedule}
    (hlate : (x.headLimit signal).1 < due) :
    awaitHead x signal ((due, a) :: s)
      = ⟨.error (x.headLimit signal).2, (x.headLimit signal).1⟩ := by
  rw [awaitHead.eq_def]
  exact if_pos hlate

theorem readBody_late {x : Terms} {status : Status} {fields : Fields} {body : ByteArray}
    {since : Instant} {a : Arrival} {s : Schedule} (hlate : (x.bodyLimit since).1 < due) :
    readBody x status fields body since ((due, a) :: s)
      = ⟨.error (x.bodyLimit since).2, (x.bodyLimit since).1⟩ := by
  rw [readBody.eq_def]
  exact if_pos hlate

/-- What comes from the other side is noticed as it comes. -/
theorem noticed_arrival {a : Arrival} (hh : ¬ h.Handles) (ha : h.arrival? b = some a) :
    noticed b ((due, h) :: rest) = (due, a) :: noticed b rest := by
  rw [noticed, ha, bodyAfter_of_not_handles hh]
  rfl

theorem arrival?_isSome (hh : ¬ h.Handles) : (h.arrival? b).isSome = true := by
  cases h with
  | asked | letGo => exact absurd trivial hh
  | _ => rfl

/-- A signal is noticed when it is given. -/
theorem noticed_handled (hh : h.Handles) (hwaiting : b.signal = .waiting) :
    noticed b ((due, h) :: rest)
      = ((h.bodyAfter b).signal.arrival?.map (due, ·)).toList ++ noticed (h.bodyAfter b) rest := by
  cases h with
  | asked | letGo => simp [noticed, Happening.arrival?, Happening.bodyAfter, hwaiting]
  | _ => exact hh.elim

/-- Nothing is noticed when it was given before. -/
theorem noticed_handled_again (hh : h.Handles) (hgiven : b.signal ≠ .waiting) :
    noticed b ((due, h) :: rest) = noticed (h.bodyAfter b) rest := by
  cases h with
  | asked | letGo => simp [noticed, Happening.arrival?, hgiven]
  | _ => exact hh.elim

/-- As long as a head is awaited, the signal counts from when it is given, if it is not too late. -/
theorem awaitHead_handled (x : Terms) (hh : h.Handles) :
    awaitHead x b.signal (noticed b ((due, h) :: rest))
      = if b.signal = .waiting ∧ (x.headLimit b.signal).1 < due then
          ⟨.error (x.headLimit b.signal).2, (x.headLimit b.signal).1⟩
        else awaitHead x (h.bodyAfter b).signal (noticed (h.bodyAfter b) rest) := by
  by_cases hwaiting : b.signal = .waiting
  · have hsignal := signal_handled hh hwaiting
    rw [noticed_handled hh hwaiting]
    split at hsignal <;>
      simp [hsignal, WriteSignal.arrival?, awaitHead, WriteSignal.followedBy, hwaiting]
  · rw [noticed_handled_again hh hwaiting, signal_kept hwaiting, if_neg fun hc => hwaiting hc.1]

/-- Once the head is there nothing of the body of the request counts. -/
theorem readBody_handled (x : Terms) (status : Status) (fields : Fields) (body : ByteArray)
    (since : Instant) (b : TrackedBody) (due : Instant) (rest : Happenings) (hh : h.Handles) :
    readBody x status fields body since (noticed b ((due, h) :: rest))
        = readBody x status fields body since (noticed (h.bodyAfter b) rest) ∨
      (x.bodyLimit since).1 < due ∧
        readBody x status fields body since (noticed b ((due, h) :: rest))
          = ⟨.error (x.bodyLimit since).2, (x.bodyLimit since).1⟩ := by
  by_cases hwaiting : b.signal = .waiting
  · have hsignal := signal_handled hh hwaiting
    rw [noticed_handled hh hwaiting]
    by_cases hlate : (x.bodyLimit since).1 < due
    · refine .inr ⟨hlate, ?_⟩
      split at hsignal <;> simp [hsignal, WriteSignal.arrival?, readBody, hlate]
    · refine .inl ?_
      split at hsignal <;> simp [hsignal, WriteSignal.arrival?, readBody, hlate]
  · exact .inl (by rw [noticed_handled_again hh hwaiting])

/-! ### Whether the body was taken -/

/-- By that time the connection has taken the body: the first thing that it did to it was to ask it
for bytes. If it has none it does not matter what it did. -/
def Taken (bytes : ByteArray) (events : Happenings) (t : Instant) : Prop :=
  ∃ u h, u < t ∧ (u, h) ∈ events ∧ h.Handles ∧ (∀ e ∈ events, e.1 < u → ¬ e.2.Handles) ∧
    (h = .asked ∨ bytes.isEmpty = true)

/-- Where the connection has done something to a body, the first thing it did decides. -/
theorem exists_first_handled (hpast : ∃ e ∈ past, e.2.Handles) :
    ∃ earlier e later, past = earlier ++ e :: later ∧ (∀ e ∈ earlier, ¬ e.2.Handles) ∧
      e.2.Handles := by
  induction past with
  | nil => simp at hpast
  | cons e rest ih =>
    by_cases hfirst : e.2.Handles
    · exact ⟨[], e, rest, rfl, by simp, hfirst⟩
    · have hrest : ∃ e ∈ rest, e.2.Handles := by
        obtain ⟨e', he', hh⟩ := hpast
        rcases List.mem_cons.mp he' with rfl | he'
        · exact absurd hh hfirst
        · exact ⟨e', he', hh⟩
      obtain ⟨earlier, first, later, rfl, huntouched, hh⟩ := ih hrest
      exact ⟨e :: earlier, first, later, rfl, List.forall_mem_cons.mpr ⟨hfirst, huntouched⟩, hh⟩

/-- The first thing that is done to a body decides which signal it gives. -/
theorem written_of_first_iff {earlier later : Happenings} {e : Instant × Happening}
    (hwaiting : b.signal = .waiting) (huntouched : ∀ e ∈ earlier, ¬ e.2.Handles)
    (hh : e.2.Handles) :
    (bodyAfterAll b (earlier ++ e :: later)).signal = .written ↔ e.2 = .asked ∨ b.data = none := by
  have hfirst : bodyAfterAll b (earlier ++ e :: later)
      = bodyAfterAll (e.2.bodyAfter (bodyAfterAll b earlier)) later := by
    simp [bodyAfterAll]
  rw [hfirst, bodyAfterAll_of_untouched huntouched, signal_bodyAfterAll_kept (signal_given hh),
    signal_handled hh hwaiting]
  by_cases htaken : e.2 = .asked ∨ b.data = none
  · exact iff_of_true (if_pos htaken) htaken
  · exact iff_of_false (by simp [if_neg htaken]) htaken

/-- What the signal of a body says is whether it was taken. -/
theorem written_iff_taken (bytes : ByteArray)
    (hordered : (past ++ (t, h) :: rest).Pairwise (·.1 < ·.1)) :
    (bodyAfterAll (.ofBytes bytes) past).signal = .written
      ↔ Taken bytes (past ++ (t, h) :: rest) t := by
  have hempty : (TrackedBody.ofBytes bytes).data = none ↔ bytes.isEmpty = true := by
    simp [TrackedBody.ofBytes]
  have hpast : past.Pairwise (·.1 < ·.1) := (List.pairwise_append.mp hordered).1
  constructor
  · intro hwritten
    have htouched : ∃ e ∈ past, e.2.Handles := by
      refine Classical.byContradiction fun hnone => ?_
      have huntouched : ∀ e ∈ past, ¬ e.2.Handles := fun e he hh => hnone ⟨e, he, hh⟩
      rw [bodyAfterAll_of_untouched huntouched] at hwritten
      cases hwritten
    obtain ⟨earlier, e, later, rfl, huntouched, hh⟩ := exists_first_handled htouched
    have htaken := (written_of_first_iff rfl huntouched hh).mp hwritten
    have hsome : e ∈ earlier ++ e :: later := by simp
    refine ⟨e.1, e.2, (mem_before_iff hordered (by simp)).mpr hsome, by simp, hh, ?_,
      htaken.imp_right hempty.mp⟩
    intro e' he' hbefore
    have hlt := Nat.lt_trans hbefore ((mem_before_iff hordered (by simp)).mpr hsome)
    have hmem := (mem_before_iff hordered he').mp hlt
    exact huntouched e' ((mem_before_iff hpast hmem).mp hbefore)
  · rintro ⟨u, first, hu, hmem, hh, hfirst, htaken⟩
    obtain ⟨earlier, later, rfl⟩ := List.append_of_mem ((mem_before_iff hordered hmem).mp hu)
    have huntouched : ∀ e ∈ earlier, ¬ e.2.Handles := fun e he =>
      hfirst e (by simp [he]) ((mem_before_iff hpast (by simp [he])).mpr he)
    exact (written_of_first_iff rfl huntouched hh).mpr (htaken.imp_right hempty.mpr)

end HttpGateway.Forward
