/-
What the timeouts of an exchange mean.

* **Arriving** — a head has come, and pieces of the body after it, and nothing that ends them.
* **Apart** — nothing happens at the same time as something else, as far as that matters.
* **BodyEnd**, **HeadEnd** — the ways in which an exchange ends once the head is there, and before.
* `readBody_ends`, `awaitHead_ends` — there are no others.
* `exchange_in_time` — what is known of the connection from how an exchange ended.

Both waits go through what happens in the order of time. What has been gone through is kept as it is,
so that nothing has to be said about a part of the course alone.
-/
import HttpGateway.Proofs.Forward.Handover
import Mathlib.Data.List.Chain

namespace HttpGateway.Forward

open Http

/-- The pieces of a response, and when they come. -/
def pieces (events : Happenings) : List (Instant × ByteArray) :=
  events.filterMap fun e => e.2.piece?.map (e.1, ·)

/-- A response as far as it has come, if the first answer to a request was a head. That came at the
first of some times, and the pieces of the body at the others; nothing has ended it, and all else is
still to come. -/
def Arriving (events : Happenings) (r : Response) (times : List Instant) (rest : Happenings) :
    Prop :=
  ∃ before t during, events = before ++ (t, .head r.status r.fields) :: (during ++ rest) ∧
    (∀ e ∈ before, ¬ e.2.Answers) ∧ (∀ e ∈ during, ¬ e.2.Ends) ∧
    times = t :: (pieces during).map (·.1) ∧
    r.body = (pieces during).foldl (fun body piece => body ++ piece.2) emptyBody

/-- No two things happen at one time, and no frame of the response comes just when the wait for it
is over, because of the pause or of the response as a whole. What else comes together with a timeout
does not matter: it is still in time. -/
structure Apart (x : Terms) (events : Happenings) : Prop where
  ordered : events.Pairwise (·.1 < ·.1)
  frames : ∀ {r times since due h rest},
    Arriving events r times ((due, h) :: rest) → times.getLast? = some since →
      h.IsFrame → due ≠ since + x.timeouts.idle ∧ due ≠ x.timeouts.response

variable {x : Terms} {events rest past : Happenings} {r : Response} {times : List Instant}
  {since due t : Instant} {h : Happening} {bytes : ByteArray}

/-- A piece comes when something happens. -/
theorem mem_of_mem_pieces (ht : t ∈ (pieces events).map (·.1)) : ∃ e ∈ events, e.1 = t := by
  obtain ⟨p, hp, rfl⟩ := List.mem_map.mp ht
  obtain ⟨⟨due, h⟩, he, hpiece⟩ := List.mem_filterMap.mp hp
  cases h with
  | piece bytes =>
    cases hpiece
    exact ⟨(due, .piece bytes), he, rfl⟩
  | _ => cases hpiece

namespace Arriving

theorem ordered (hway : Arriving events r times rest)
    (hordered : events.Pairwise (·.1 < ·.1)) : rest.Pairwise (·.1 < ·.1) := by
  obtain ⟨before, t, during, rfl, -⟩ := hway
  have hlater := (List.pairwise_append.mp hordered).2.1
  exact (List.pairwise_append.mp (List.pairwise_cons.mp hlater).2).2.1

/-- The head was there before whatever is still to come. -/
theorem head_before (hway : Arriving events r times ((due, h) :: rest))
    (hordered : events.Pairwise (·.1 < ·.1)) :
    ∃ t, (t, .head r.status r.fields) ∈ events ∧ t < due ∧ (due, h) ∈ events := by
  obtain ⟨before, t, during, rfl, -⟩ := hway
  have hlater := (List.pairwise_append.mp hordered).2.1
  exact ⟨t, by simp, (List.pairwise_cons.mp hlater).1 (due, h) (by simp), by simp⟩

/-- The times are those of the head and the pieces. -/
theorem exists_of_mem (hway : Arriving events r times rest) (ht : t ∈ times) :
    ∃ e ∈ events, e.1 = t := by
  obtain ⟨before, first, during, rfl, -, -, rfl, -⟩ := hway
  rcases List.mem_cons.mp ht with rfl | ht
  · exact ⟨(t, .head r.status r.fields), by simp, rfl⟩
  obtain ⟨e, he, rfl⟩ := mem_of_mem_pieces ht
  exact ⟨e, by simp [he], rfl⟩

/-- What is no frame of the response changes nothing for it. -/
theorem skip (hway : Arriving events r times ((due, h) :: rest)) (hh : ¬ h.IsFrame) :
    Arriving events r times rest := by
  obtain ⟨before, t, during, rfl, hbefore, hduring, rfl, hbody⟩ := hway
  have hends : ¬ h.Ends := by
    cases h with
    | finished | broken => exact absurd trivial hh
    | _ => exact id
  have hpieces : pieces (during ++ [(due, h)]) = pieces during := by
    cases h with
    | piece => exact absurd trivial hh
    | _ => simp [pieces, Happening.piece?]
  refine ⟨before, t, during ++ [(due, h)], by simp, hbefore, ?_, by rw [hpieces], by rwa [hpieces]⟩
  exact List.forall_mem_append.mpr ⟨hduring, List.forall_mem_singleton.mpr hends⟩

theorem piece {status : Status} {fields : Fields} {body : ByteArray}
    (hway : Arriving events ⟨status, fields, body⟩ times ((due, .piece bytes) :: rest)) :
    Arriving events ⟨status, fields, body ++ bytes⟩ (times ++ [due]) rest := by
  obtain ⟨before, t, during, rfl, hbefore, hduring, rfl, hbody⟩ := hway
  have hpieces : pieces (during ++ [(due, .piece bytes)]) = pieces during ++ [(due, bytes)] := by
    simp [pieces, Happening.piece?]
  refine ⟨before, t, during ++ [(due, .piece bytes)], by simp, hbefore, ?_, by simp [hpieces], ?_⟩
  · exact List.forall_mem_append.mpr ⟨hduring, List.forall_mem_singleton.mpr id⟩
  · rw [hpieces, List.foldl_append, ← hbody]
    rfl

end Arriving

/-! ### After the head -/

/-- How an exchange ends once the head is there. -/
inductive BodyEnd (x : Terms) (events : Happenings) : Ending → Prop
  | complete {r : Response} {times : List Instant} {t : Instant} {rest : Happenings}
      (hway : Arriving events r times ((t, .finished) :: rest))
      (hpauses : (times ++ [t]).IsChain fun u v => v < u + x.timeouts.idle)
      (htime : t < x.timeouts.response) : BodyEnd x events ⟨.ok r, t⟩
  | broken {r : Response} {times : List Instant} {t : Instant} {reason : String}
      {rest : Happenings} (hway : Arriving events r times ((t, .broken reason) :: rest))
      (htime : t < x.timeouts.response) :
      BodyEnd x events ⟨.error (.exchange x.address reason), t⟩
  | tooLarge {t : Instant} (htime : t ≤ x.timeouts.response) :
      BodyEnd x events ⟨.error x.tooLarge, t⟩
  | idle {r : Response} {times : List Instant} {since : Instant} {rest : Happenings}
      (hway : Arriving events r times rest) (hlast : times.getLast? = some since)
      (hquiet : ∀ e ∈ rest, e.2.IsFrame → since + x.timeouts.idle < e.1)
      (htime : since + x.timeouts.idle < x.timeouts.response) :
      BodyEnd x events
        ⟨.error (.idleTimeout x.timeouts.idle.millis), since + x.timeouts.idle⟩
  | late : BodyEnd x events
      ⟨.error (.responseTimeout x.timeouts.response.millis), x.timeouts.response⟩

/-- A wait for a piece is over when the pause is, or the time for the whole response. -/
theorem bodyLimit_le (x : Terms) (since : Instant) :
    (x.bodyLimit since).1 ≤ since + x.timeouts.idle ∧
      (x.bodyLimit since).1 ≤ x.timeouts.response := by
  unfold Terms.bodyLimit
  split
  · exact ⟨Nat.le_refl _, Nat.le_of_lt (by assumption)⟩
  · exact ⟨Nat.le_of_not_lt (by assumption), Nat.le_refl _⟩

/-- No frame has come when the wait for it is over. -/
theorem BodyEnd.waited (hway : Arriving events r times rest)
    (hlast : times.getLast? = some since)
    (hquiet : ∀ e ∈ rest, e.2.IsFrame → (x.bodyLimit since).1 < e.1) :
    BodyEnd x events ⟨.error (x.bodyLimit since).2, (x.bodyLimit since).1⟩ := by
  unfold Terms.bodyLimit at hquiet ⊢
  split at hquiet
  next htime =>
    rw [if_pos htime]
    exact .idle hway hlast hquiet htime
  next htime =>
    rw [if_neg htime]
    exact .late

/-- A frame that has come by the end of the wait for it has come before, as the two are apart. -/
theorem Apart.before (hapart : Apart x events)
    (hway : Arriving events r times ((due, h) :: rest))
    (hlast : times.getLast? = some since) (hframe : h.IsFrame)
    (hintime : ¬ (x.bodyLimit since).1 < due) :
    due < since + x.timeouts.idle ∧ due < x.timeouts.response := by
  obtain ⟨hidle, hresponse⟩ := bodyLimit_le x since
  obtain ⟨hnotidle, hnotresponse⟩ := hapart.frames hway hlast hframe
  have hle := Nat.le_of_not_lt hintime
  exact ⟨Nat.lt_of_le_of_ne (Nat.le_trans hle hidle) hnotidle,
    Nat.lt_of_le_of_ne (Nat.le_trans hle hresponse) hnotresponse⟩

/-- However the response goes on, the exchange ends in one of these ways. -/
theorem readBody_ends (hapart : Apart x events) {b : TrackedBody} {status : Status}
    {fields : Fields} {body : ByteArray}
    (hway : Arriving events ⟨status, fields, body⟩ times rest) (hlast : times.getLast? = some since)
    (hpauses : times.IsChain fun u v => v < u + x.timeouts.idle) :
    BodyEnd x events (readBody x status fields body since (noticed b rest)) := by
  induction rest generalizing b body times since with
  | nil => exact .waited hway hlast (by simp)
  | cons e rest ih =>
    obtain ⟨due, h⟩ := e
    have hlate : (x.bodyLimit since).1 < due → BodyEnd x events
        ⟨.error (x.bodyLimit since).2, (x.bodyLimit since).1⟩ := by
      intro hlate
      have hafter := (List.pairwise_cons.mp (hway.ordered hapart.ordered)).1
      refine .waited hway hlast (List.forall_mem_cons.mpr ⟨fun _ => hlate, fun e he _ => ?_⟩)
      exact Nat.lt_trans hlate (hafter e he)
    have hpauses' : h.IsFrame → ¬ (x.bodyLimit since).1 < due →
        (times ++ [due]).IsChain fun u v => v < u + x.timeouts.idle := by
      intro hframe hintime
      refine hpauses.append (List.isChain_singleton _) fun u hu v hv => ?_
      obtain rfl : since = u := Option.some.inj (hlast.symm.trans hu)
      obtain rfl : due = v := Option.some.inj hv
      exact (hapart.before hway hlast hframe hintime).1
    by_cases hh : h.Handles
    · rcases readBody_handled x status fields body since b due rest hh with heq | ⟨htime, heq⟩
      · rw [heq]
        refine ih (hway.skip ?_) hlast hpauses
        cases h with
        | asked | letGo => exact id
        | _ => exact hh.elim
      · rw [heq]
        exact hlate htime
    by_cases htime : (x.bodyLimit since).1 < due
    · obtain ⟨a, ha⟩ := Option.isSome_iff_exists.mp (arrival?_isSome (b := b) hh)
      rw [noticed_arrival hh ha, readBody_late htime]
      exact hlate htime
    cases h with
    | asked | letGo => exact absurd trivial hh
    | head later others =>
      rw [noticed_arrival id rfl, readBody, if_neg htime]
      exact ih (hway.skip id) hlast hpauses
    | piece bytes =>
      rw [noticed_arrival id rfl, readBody, if_neg htime]
      split
      · exact .tooLarge (Nat.le_of_lt (hapart.before hway hlast trivial htime).2)
      · exact ih hway.piece List.getLast?_concat (hpauses' trivial htime)
    | finished =>
      rw [noticed_arrival id rfl, readBody, if_neg htime]
      exact .complete hway (hpauses' trivial htime) (hapart.before hway hlast trivial htime).2
    | broken reason =>
      rw [noticed_arrival id rfl, readBody, if_neg htime]
      exact .broken hway (hapart.before hway hlast trivial htime).2

/-! ### Before the head -/

/-- No answer has come before a time. -/
def Unanswered (events : Happenings) (t : Instant) : Prop :=
  ∀ e ∈ events, e.1 < t → ¬ e.2.Answers

/-- How an exchange ends. -/
inductive HeadEnd (x : Terms) (bytes : ByteArray) (events : Happenings) : Ending → Prop
  | answered {t : Instant} {status : Status} {fields : Fields} {e : Ending}
      (hhead : (t, .head status fields) ∈ events) (hfirst : Unanswered events t)
      (hend : BodyEnd x events e) : HeadEnd x bytes events e
  | interrupted {t : Instant} {reason : String} (hbroken : (t, .broken reason) ∈ events)
      (hfirst : Unanswered events t) (htime : t ≤ x.timeouts.response)
      (htaken : Taken bytes events t) :
      HeadEnd x bytes events ⟨.error (.exchange x.address reason), t⟩
  | unsent {t : Instant} {reason : String} (hbroken : (t, .broken reason) ∈ events)
      (hfirst : Unanswered events t) (htime : t ≤ x.timeouts.response)
      (hleft : ¬ Taken bytes events t) :
      HeadEnd x bytes events ⟨.error (.write x.address reason), t⟩
  | unwritten
      (hquiet : ∀ e ∈ events, e.1 ≤ x.timeouts.write → ¬ e.2.Handles ∧ ¬ e.2.Answers)
      (htime : x.timeouts.write < x.timeouts.response) :
      HeadEnd x bytes events
        ⟨.error (.writeTimeout x.timeouts.write.millis), x.timeouts.write⟩
  | unanswered (hquiet : ∀ e ∈ events, e.1 ≤ x.timeouts.response → ¬ e.2.Answers) :
      HeadEnd x bytes events
        ⟨.error (.responseTimeout x.timeouts.response.millis), x.timeouts.response⟩

theorem headLimit_le (x : Terms) (signal : WriteSignal) :
    (x.headLimit signal).1 ≤ x.timeouts.response := by
  unfold Terms.headLimit
  split
  next htime => exact Nat.le_of_lt htime.2
  next => exact Nat.le_refl _

/-- No answer has come when the wait for one is over, and if it was the wait for the body to be taken,
nothing was done to that either. -/
theorem HeadEnd.waited {signal : WriteSignal} (hsplit : events = past ++ rest)
    (hpast : ∀ e ∈ past, ¬ e.2.Answers)
    (huntouched : signal = .waiting → ∀ e ∈ past, ¬ e.2.Handles)
    (hlate : ∀ e ∈ rest, (x.headLimit signal).1 < e.1) :
    HeadEnd x bytes events ⟨.error (x.headLimit signal).2, (x.headLimit signal).1⟩ := by
  subst hsplit
  unfold Terms.headLimit at hlate ⊢
  split at hlate
  next htime =>
    rw [if_pos htime]
    refine .unwritten (fun e he hle => ?_) htime.2
    rcases List.mem_append.mp he with he | he
    · exact ⟨huntouched htime.1 e he, hpast e he⟩
    · exact absurd (hlate e he) (Nat.not_lt_of_le hle)
  next htime =>
    rw [if_neg htime]
    refine .unanswered fun e he hle => ?_
    rcases List.mem_append.mp he with he | he
    · exact hpast e he
    · exact absurd (hlate e he) (Nat.not_lt_of_le hle)

/-- However the connection goes on, the exchange ends in one of these ways. -/
theorem awaitHead_ends (hapart : Apart x events) {b : TrackedBody}
    (hbody : bodyAfterAll (.ofBytes bytes) past = b) (hsplit : events = past ++ rest)
    (hpast : ∀ e ∈ past, ¬ e.2.Answers) :
    HeadEnd x bytes events (awaitHead x b.signal (noticed b rest)) := by
  have huntouched : b.signal = .waiting → ∀ e ∈ past, ¬ e.2.Handles :=
    hbody ▸ untouched_of_waiting
  induction rest generalizing past b with
  | nil => exact .waited hsplit hpast huntouched (by simp)
  | cons e rest ih =>
    obtain ⟨due, h⟩ := e
    have hordered := hapart.ordered
    rw [hsplit] at hordered
    have hlate : (x.headLimit b.signal).1 < due →
        HeadEnd x bytes events ⟨.error (x.headLimit b.signal).2, (x.headLimit b.signal).1⟩ := by
      intro hlate
      have hafter := (List.pairwise_cons.mp (List.pairwise_append.mp hordered).2.1).1
      refine .waited hsplit hpast huntouched (List.forall_mem_cons.mpr ⟨hlate, fun e he => ?_⟩)
      exact Nat.lt_trans hlate (hafter e he)
    -- What is no answer has been gone through with all before it.
    have hgoes : ¬ h.Answers → HeadEnd x bytes events
        (awaitHead x (h.bodyAfter b).signal (noticed (h.bodyAfter b) rest)) := by
      intro hno
      have hnext : bodyAfterAll (.ofBytes bytes) (past ++ [(due, h)]) = h.bodyAfter b := by
        rw [bodyAfterAll_append, hbody]
      exact ih hnext (by simp [hsplit])
        (List.forall_mem_append.mpr ⟨hpast, List.forall_mem_singleton.mpr hno⟩)
        (hnext ▸ untouched_of_waiting)
    have hfirst : Unanswered events due := by
      intro e he hlt
      rw [hsplit] at he
      exact hpast e ((mem_before_iff hordered he).mp hlt)
    by_cases hh : h.Handles
    · rw [awaitHead_handled x hh]
      split
      next htime => exact hlate htime.2
      next =>
        refine hgoes ?_
        cases h with
        | asked | letGo => exact id
        | _ => exact hh.elim
    by_cases htime : (x.headLimit b.signal).1 < due
    · obtain ⟨a, ha⟩ := Option.isSome_iff_exists.mp (arrival?_isSome (b := b) hh)
      rw [noticed_arrival hh ha, awaitHead_late htime]
      exact hlate htime
    have hle : due ≤ x.timeouts.response :=
      Nat.le_trans (Nat.le_of_not_lt htime) (headLimit_le x _)
    cases h with
    | asked | letGo => exact absurd trivial hh
    | head status fields =>
      have hmem : (due, .head status fields) ∈ events := by simp [hsplit]
      have hway : Arriving events ⟨status, fields, emptyBody⟩ [due] rest :=
        ⟨past, due, [], hsplit, hpast, by simp, rfl, rfl⟩
      rw [noticed_arrival id rfl, awaitHead, if_neg htime]
      split
      · exact .answered hmem hfirst (.tooLarge hle)
      · exact .answered hmem hfirst
          (readBody_ends hapart hway rfl (List.isChain_singleton _))
    | broken reason =>
      have hmem : (due, .broken reason) ∈ events := by simp [hsplit]
      have htaken : b.signal = .written ↔ Taken bytes events due := by
        rw [← hbody, hsplit]
        exact written_iff_taken bytes hordered
      rw [noticed_arrival id rfl, awaitHead, if_neg htime]
      split
      next hwritten => exact .interrupted hmem hfirst hle (htaken.mp hwritten)
      next hleft => exact .unsent hmem hfirst hle fun h => hleft (htaken.mpr h)
    | piece | finished =>
      rw [noticed_arrival id rfl, awaitHead, if_neg htime]
      exact hgoes id

/-! ### What is known from how an exchange ended -/

/-- There is only one first answer. -/
theorem eq_of_unanswered {h' : Happening} {t' : Instant}
    (hordered : events.Pairwise (·.1 < ·.1)) (hmem : (t, h) ∈ events) (hmem' : (t', h') ∈ events)
    (hfirst : Unanswered events t) (hfirst' : Unanswered events t') (hh : h.Answers)
    (hh' : h'.Answers) : (t, h) = (t', h') := by
  have hsame : t = t' := Nat.le_antisymm
    (Nat.le_of_not_lt fun hlt => hfirst _ hmem' hlt hh')
    (Nat.le_of_not_lt fun hlt => hfirst' _ hmem hlt hh)
  subst hsame
  obtain ⟨before, later, rfl⟩ := List.append_of_mem hmem
  have hlater := (List.pairwise_cons.mp (List.pairwise_append.mp hordered).2.1).1
  rcases List.mem_append.mp hmem' with hin | hin
  · exact absurd ((mem_before_iff hordered hmem').mpr hin) (Nat.lt_irrefl _)
  rcases List.mem_cons.mp hin with heq | hin
  · exact heq.symm
  · exact absurd (hlater _ hin) (Nat.lt_irrefl _)

theorem BodyEnd.took_le {e : Ending} (hend : BodyEnd x events e) :
    e.took ≤ x.timeouts.response := by
  cases hend with
  | complete _ _ htime | broken _ htime | idle _ _ _ htime => exact Nat.le_of_lt htime
  | tooLarge htime => exact htime
  | late => exact Nat.le_refl _

namespace HeadEnd

variable {e : Ending}

theorem took_le (hend : HeadEnd x bytes events e) : e.took ≤ x.timeouts.response := by
  cases hend with
  | answered _ _ hend => exact hend.took_le
  | interrupted _ _ htime | unsent _ _ htime => exact htime
  | unwritten _ htime => exact Nat.le_of_lt htime
  | unanswered => exact Nat.le_refl _

/-- A response that is returned is one that has come as a whole, in time. -/
theorem complete (hend : HeadEnd x bytes events e) (hok : e.outcome = .ok r) :
    ∃ times rest, Arriving events r times ((e.took, .finished) :: rest) ∧
      e.took < x.timeouts.response ∧
      (times ++ [e.took]).IsChain fun u v => v < u + x.timeouts.idle := by
  cases hend with
  | answered _ _ hend =>
    cases hend with
    | complete hway hpauses htime =>
      obtain rfl := Except.ok.inj hok
      exact ⟨_, _, hway, htime, hpauses⟩
    | _ => cases hok
  | _ => cases hok

theorem unwritten_of_timeout {ms : Nat} (hend : HeadEnd x bytes events e)
    (herror : e.outcome = .error (.writeTimeout ms)) :
    e.took = x.timeouts.write ∧ x.timeouts.write < x.timeouts.response ∧
      ∀ h ∈ events, h.1 ≤ x.timeouts.write → ¬ h.2.Handles ∧ ¬ h.2.Answers := by
  cases hend with
  | answered _ _ hend => cases hend <;> cases herror
  | unwritten hquiet htime => exact ⟨rfl, htime, hquiet⟩
  | _ => cases herror

/-- A connection that breaks first, while its answer is still awaited, ends the exchange. -/
theorem of_broken {reason : String} (hend : HeadEnd x bytes events e)
    (hordered : events.Pairwise (·.1 < ·.1)) (hbroken : (t, .broken reason) ∈ events)
    (hfirst : Unanswered events t) (htime : t < x.timeouts.response)
    (hwritten : x.timeouts.write < t → ∃ h ∈ events, h.1 ≤ x.timeouts.write ∧ h.2.Handles) :
    e.took = t ∧
      (Taken bytes events t → e.outcome = .error (.exchange x.address reason)) ∧
      (¬ Taken bytes events t → e.outcome = .error (.write x.address reason)) := by
  cases hend with
  | answered hhead hfirst' =>
    cases eq_of_unanswered hordered hbroken hhead hfirst hfirst' trivial trivial
  | interrupted hbroken' hfirst' _ htaken =>
    cases eq_of_unanswered hordered hbroken hbroken' hfirst hfirst' trivial trivial
    exact ⟨rfl, fun _ => rfl, fun h => absurd htaken h⟩
  | unsent hbroken' hfirst' _ hleft =>
    cases eq_of_unanswered hordered hbroken hbroken' hfirst hfirst' trivial trivial
    exact ⟨rfl, fun h => absurd h hleft, fun _ => rfl⟩
  | unwritten hquiet =>
    have hlater := Nat.lt_of_not_le fun hle => (hquiet _ hbroken hle).2 trivial
    obtain ⟨h, hmem, hle, hh⟩ := hwritten hlater
    exact absurd hh (hquiet h hmem hle).1
  | unanswered hquiet => exact absurd trivial (hquiet _ hbroken (Nat.le_of_lt htime))

theorem broken_of_write {address reason : String} (hend : HeadEnd x bytes events e)
    (herror : e.outcome = .error (.write address reason)) :
    (e.took, .broken reason) ∈ events ∧ Unanswered events e.took ∧
      ¬ Taken bytes events e.took := by
  cases hend with
  | answered _ _ hend => cases hend <;> cases herror
  | unsent hbroken hfirst _ hleft =>
    cases herror
    exact ⟨hbroken, hfirst, hleft⟩
  | _ => cases herror

theorem broken_of_exchange {address reason : String} (hend : HeadEnd x bytes events e)
    (hordered : events.Pairwise (·.1 < ·.1))
    (herror : e.outcome = .error (.exchange address reason)) :
    (e.took, .broken reason) ∈ events ∧
      (Unanswered events e.took → Taken bytes events e.took) := by
  cases hend with
  | answered _ _ hend =>
    cases hend with
    | broken hway =>
      cases herror
      obtain ⟨t, hhead, hbefore, hmem⟩ := hway.head_before hordered
      exact ⟨hmem, fun hfirst => absurd trivial (hfirst _ hhead hbefore)⟩
    | _ => cases herror
  | interrupted hbroken _ _ htaken =>
    cases herror
    exact ⟨hbroken, fun _ => htaken⟩
  | _ => cases herror

theorem idle_of_timeout {ms : Nat} (hend : HeadEnd x bytes events e)
    (herror : e.outcome = .error (.idleTimeout ms)) :
    ∃ r times since rest, Arriving events r times rest ∧ times.getLast? = some since ∧
      (∀ h ∈ rest, h.2.IsFrame → since + x.timeouts.idle < h.1) ∧
      e.took = since + x.timeouts.idle ∧ since + x.timeouts.idle < x.timeouts.response := by
  cases hend with
  | answered _ _ hend =>
    cases hend with
    | idle hway hlast hquiet htime => exact ⟨_, _, _, _, hway, hlast, hquiet, rfl, htime⟩
    | _ => cases herror
  | _ => cases herror

end HeadEnd

/-- If the times of any two things are not just one pause apart, no frame comes when the wait for it
is over. -/
theorem Apart.of_spaced (hordered : events.Pairwise (·.1 < ·.1))
    (hspaced : ∀ e ∈ events, e.1 ≠ x.timeouts.response ∧
      ∀ e' ∈ events, e'.1 ≠ e.1 + x.timeouts.idle) : Apart x events where
  ordered := hordered
  frames := fun {_ _ since due _ _} hway hlast _ => by
    obtain ⟨e, he, rfl⟩ := hway.exists_of_mem (List.mem_of_getLast? hlast)
    obtain ⟨-, -, -, hmem⟩ := hway.head_before hordered
    exact ⟨(hspaced e he).2 _ hmem, (hspaced _ hmem).1⟩

/-- **The timeouts of an exchange mean what they say.** Whatever a connection does and whenever, an
exchange lasts no longer than the response timeout. A response is returned only if it came as a whole
before that, head, pieces and end, and no wait for a piece or the end was as long as the idle timeout.
It is the write timeout that ends an exchange only if by then nothing was done to the body of the
request, and no answer had come. A connection that breaks before it answers, and before a timeout ends
the exchange, could not be written to if it had not taken the body, and that error means nothing else;
otherwise the exchange failed, as it does where a connection breaks after the head. And it is the idle
timeout only if that long after the head or a piece no other frame had come, and there was still time
left for the response. -/
theorem exchange_in_time (x : Terms) (bytes : ByteArray) {events : Happenings}
    (hapart : Apart x events) :
    let e := exchange x (noticed (.ofBytes bytes) events)
    e.took ≤ x.timeouts.response ∧
    (∀ r, e.outcome = .ok r → ∃ times rest,
      Arriving events r times ((e.took, .finished) :: rest) ∧ e.took < x.timeouts.response ∧
        (times ++ [e.took]).IsChain fun u v => v < u + x.timeouts.idle) ∧
    (∀ ms, e.outcome = .error (.writeTimeout ms) →
      e.took = x.timeouts.write ∧ x.timeouts.write < x.timeouts.response ∧
        ∀ h ∈ events, h.1 ≤ x.timeouts.write → ¬ h.2.Handles ∧ ¬ h.2.Answers) ∧
    (∀ t reason, (t, .broken reason) ∈ events → Unanswered events t → t < x.timeouts.response →
      (x.timeouts.write < t → ∃ h ∈ events, h.1 ≤ x.timeouts.write ∧ h.2.Handles) →
        e.took = t ∧
        (Taken bytes events t → e.outcome = .error (.exchange x.address reason)) ∧
        (¬ Taken bytes events t → e.outcome = .error (.write x.address reason))) ∧
    (∀ address reason, e.outcome = .error (.write address reason) →
      (e.took, .broken reason) ∈ events ∧ Unanswered events e.took ∧
        ¬ Taken bytes events e.took) ∧
    (∀ address reason, e.outcome = .error (.exchange address reason) →
      (e.took, .broken reason) ∈ events ∧
        (Unanswered events e.took → Taken bytes events e.took)) ∧
    (∀ ms, e.outcome = .error (.idleTimeout ms) → ∃ r times since rest,
      Arriving events r times rest ∧ times.getLast? = some since ∧
        (∀ h ∈ rest, h.2.IsFrame → since + x.timeouts.idle < h.1) ∧
        e.took = since + x.timeouts.idle ∧ since + x.timeouts.idle < x.timeouts.response) := by
  intro e
  have hend : HeadEnd x bytes events e :=
    awaitHead_ends hapart rfl (List.nil_append events).symm (by simp)
  exact ⟨hend.took_le, fun _ => hend.complete, fun _ => hend.unwritten_of_timeout,
    fun _ _ => hend.of_broken hapart.ordered, fun _ _ => hend.broken_of_write,
    fun _ _ => hend.broken_of_exchange hapart.ordered, fun _ => hend.idle_of_timeout⟩

/-- Two connections that go on after the write timeout: one lets the body go and breaks, and whether
there was anything to take makes the difference; the other takes it, and its response comes late, but
in time. -/
theorem exchange_in_time_late :
    let x : Terms := ⟨⟨10, 100, 1000, 50⟩, 4096, "127.0.0.1:9000"⟩
    let breaks : Happenings := [(5, .letGo), (120, .broken "reset")]
    let answers : Happenings := [(5, .asked), (200, .head .ok .empty), (240, .finished)]
    (Apart x breaks ∧ Apart x answers) ∧
      (exchange x (noticed (.ofBytes "a".toUTF8) breaks)).outcome
        = .error (.write "127.0.0.1:9000" "reset") ∧
      (exchange x (noticed (.ofBytes emptyBody) breaks)).outcome
        = .error (.exchange "127.0.0.1:9000" "reset") ∧
      (exchange x (noticed (.ofBytes "a".toUTF8) answers)).outcome
        = .ok ⟨.ok, .empty, emptyBody⟩ ∧
      ∃ times rest, Arriving answers ⟨.ok, .empty, emptyBody⟩ times ((240, .finished) :: rest) ∧
        (times ++ [240]).IsChain fun u v => v < u + 50 := by
  intro x breaks answers
  have hbreaks : Apart x breaks := .of_spaced (by decide) (by decide)
  have hanswers : Apart x answers := .of_spaced (by decide) (by decide)
  have hfirst : Unanswered breaks 120 := by simp [Unanswered, breaks, Happening.Answers]
  have hhandled : x.timeouts.write < 120 → ∃ h ∈ breaks, h.1 ≤ x.timeouts.write ∧ h.2.Handles :=
    fun _ => ⟨(5, .letGo), by simp [breaks], by decide, trivial⟩
  have hleft : ¬ Taken "a".toUTF8 breaks 120 := by
    rintro ⟨u, h, -, hmem, hh, -, rfl | hempty⟩
    · simp [breaks] at hmem
    · exact absurd hempty (by decide)
  have htaken : Taken emptyBody breaks 120 :=
    ⟨5, .letGo, by decide, by simp [breaks], trivial, by simp [breaks], .inr rfl⟩
  obtain ⟨-, -, -, hlet, -⟩ := exchange_in_time x "a".toUTF8 hbreaks
  obtain ⟨-, -, -, hnone, -⟩ := exchange_in_time x emptyBody hbreaks
  obtain ⟨-, hcomes, -⟩ := exchange_in_time x "a".toUTF8 hanswers
  have hok : exchange x (noticed (.ofBytes "a".toUTF8) answers)
      = ⟨.ok ⟨.ok, .empty, emptyBody⟩, 240⟩ := rfl
  rw [hok] at hcomes ⊢
  obtain ⟨times, rest, hway, -, hpauses⟩ := hcomes _ rfl
  exact ⟨⟨hbreaks, hanswers⟩,
    (hlet 120 "reset" (by simp [breaks]) hfirst (by decide) hhandled).2.2 hleft,
    (hnone 120 "reset" (by simp [breaks]) hfirst (by decide) hhandled).2.1 htaken,
    rfl, times, rest, hway, hpauses⟩

end HttpGateway.Forward
