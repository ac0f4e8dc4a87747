/-
Requests from their admission to their end.

* **Session.about**, **Session.returned**, **Session.responsesTo** — what the log tells of a visit: its
  events, how often its place was given back, and what its client got.
* **Accounted** — a place is given back with the end of the visit, and a client gets the first reply
  unless it left before.
* `visits_settled` — there are never too many requests in hand, those that come on top are turned
  away, and every visit is accounted for.

Whether a visit goes on, and whether someone waits for it, are two things. A client may leave and the
pipeline go on, or be answered before the pipeline is done; either way nobody waits any more, and
the place is taken until the end.
-/
import HttpGateway.Proofs.Request.Session

namespace HttpGateway.Request

open Http

variable {limit most n : Nat} {e : Event} {s : Session}

/-! ### What the log tells of one visit -/

namespace Entry

/-- Whether an event gives back the place of a visit. -/
def returns (x : Entry) (n : Nat) : Bool := x.before.holds n && !x.after.holds n

/-- Whether a visit ends with an event. -/
def ends (most : Nat) (x : Entry) (n : Nat) : Bool :=
  decide (x.event.visit? = some n) && x.event.ends most x.before

end Entry

namespace Session

/-- How often the place of a visit was given back. -/
def returned (s : Session) (n : Nat) : Nat := s.log.countP (·.returns n)

/-- What the client of a visit got, the last response first. -/
def responsesTo (s : Session) (n : Nat) : List Response := (s.about n).filterMap (·.response)

/-- What there was for the client of a visit, whether it was still there or not. -/
def replies (most : Nat) (s : Session) (n : Nat) : List Response :=
  (s.about n).filterMap (·.event.reply? most)

/-- Whether the client of a visit left before it got a response. -/
def cancelled (s : Session) (n : Nat) : Bool := (s.about n).any (·.event.isDisconnect)

/-- Whether the pipeline broke down over a visit. -/
def brokeDown (s : Session) (n : Nat) : Bool := (s.about n).any (·.event.isBreakdown)

theorem about_step_other (hn : e.visit? ≠ some n) : (s.step most e).about n = s.about n :=
  List.filter_cons_of_neg fun h => hn (of_decide_eq_true h)

theorem about_step (hn : e.visit? = some n) :
    (s.step most e).about n = s.entry most e :: s.about n :=
  List.filter_cons_of_pos (decide_eq_true hn)

theorem any_about_step (hn : e.visit? = some n) (p : Entry → Bool) :
    ((s.step most e).about n).any p = (p (s.entry most e) || (s.about n).any p) := by
  rw [about_step hn, List.any_cons]

theorem filterMap_about_step (hn : e.visit? = some n) (f : Entry → Option Response) :
    ((s.step most e).about n).filterMap f =
      (f (s.entry most e)).toList ++ (s.about n).filterMap f := by
  rw [about_step hn, List.filterMap_cons]
  cases f (s.entry most e) <;> rfl

theorem returned_step (n : Nat) :
    (s.step most e).returned n = s.returned n + if (s.entry most e).returns n then 1 else 0 :=
  List.countP_cons

theorem responsesTo_step (hn : e.visit? = some n) :
    (s.step most e).responsesTo n = (e.effect most s.desk).1.toList ++ s.responsesTo n :=
  filterMap_about_step hn _

theorem replies_step (hn : e.visit? = some n) :
    (s.step most e).replies most n = (e.reply? most).toList ++ s.replies most n :=
  filterMap_about_step hn _

theorem cancelled_step (hn : e.visit? = some n) :
    (s.step most e).cancelled n = (e.isDisconnect || s.cancelled n) :=
  any_about_step hn _

theorem answered_step (hn : e.visit? = some n) :
    (s.step most e).answered n = (e.isAnswer || s.answered n) :=
  any_about_step hn _

theorem brokeDown_step (hn : e.visit? = some n) :
    (s.step most e).brokeDown n = (e.isBreakdown || s.brokeDown n) :=
  any_about_step hn _

end Session

/-- What the log tells of a visit. -/
structure Accounted (most : Nat) (s : Session) (n : Nat) : Prop where
  returned : s.returned n = if s.desk.holds n then 0 else 1
  waiting : s.desk.waits n = true →
    s.replies most n = [] ∧ s.responsesTo n = [] ∧ s.cancelled n = false
  left : s.cancelled n = true → s.responsesTo n = []
  told : s.desk.waits n = false → s.cancelled n = false →
    ∃ r, (s.replies most n).getLast? = some r ∧ s.responsesTo n = [r]
  unanswered : s.desk.holds n = true → s.answered n = false → s.replies most n = []
  running : s.desk.holds n = true → s.brokeDown n = false
  broken : s.brokeDown n = true → s.replies most n = [brokenDown.response]

theorem Accounted.congr {s' : Session} (h : Accounted most s n)
    (hfind : s'.desk.visits.find n = s.desk.visits.find n) (habout : s'.about n = s.about n)
    (hreturned : s'.returned n = s.returned n) : Accounted most s' n := by
  have hholds : s'.desk.holds n = s.desk.holds n := congrArg Option.isSome hfind
  have hwaits : s'.desk.waits n = s.desk.waits n := congrArg _ hfind
  have hresponses : s'.responsesTo n = s.responsesTo n := congrArg _ habout
  have hreplies : s'.replies most n = s.replies most n := congrArg _ habout
  have hcancelled : s'.cancelled n = s.cancelled n := by
    rw [Session.cancelled, Session.cancelled, habout]
  have hanswered : s'.answered n = s.answered n := by
    rw [Session.answered, Session.answered, habout]
  have hbroke : s'.brokeDown n = s.brokeDown n := by
    rw [Session.brokeDown, Session.brokeDown, habout]
  constructor
  · rw [hreturned, hholds]
    exact h.returned
  · rw [hwaits, hreplies, hresponses, hcancelled]
    exact h.waiting
  · rw [hcancelled, hresponses]
    exact h.left
  · rw [hwaits, hcancelled, hreplies, hresponses]
    exact h.told
  · rw [hholds, hanswered, hreplies]
    exact h.unanswered
  · rw [hholds, hbroke]
    exact h.running
  · rw [hbroke, hreplies]
    exact h.broken

/-- What happens to one visit is nothing to the others. -/
theorem Accounted.other (h : Accounted most s n) (hsound : s.desk.Sound limit)
    (he : s.desk.admits e = true) (hn : e.visit? ≠ some n) (hold : n < s.desk.nextVisit) :
    Accounted most (s.step most e) n := by
  have hfind : (s.step most e).desk.visits.find n = s.desk.visits.find n :=
    Event.effect_other he hsound hn hold
  refine h.congr hfind (Session.about_step_other hn) ?_
  have hkept : (s.entry most e).after.holds n = (s.entry most e).before.holds n :=
    congrArg Option.isSome hfind
  rw [Session.returned_step, Entry.returns, hkept, Bool.and_not_self]
  rfl

/-- What happens to a visit is accounted for. -/
theorem Accounted.mine (h : Accounted most s n) (he : s.admits e = true)
    (hn : e.visit? = some n) : Accounted most (s.step most e) n := by
  obtain ⟨v, hv, hgone⟩ := Desk.admits_visit (Session.admits_desk he) hn
  have hheld : s.desk.holds n = true := Desk.holds_iff.mpr ⟨v, hv⟩
  have hwaits : s.desk.waits n = !v.clientGone := by
    rw [Desk.waits, hv]
    rfl
  have hheld' : (s.step most e).desk.holds n = !e.ends most s.desk := Event.effect_holds hn hv
  have hwaits' : (s.step most e).desk.waits n =
      (!v.clientGone && (e.reply? most).isNone && !e.isDisconnect) := Event.effect_waits hn hv
  have hresponses : (s.step most e).responsesTo n =
      (if v.clientGone then none else e.reply? most).toList ++ s.responsesTo n := by
    rw [Session.responsesTo_step hn, Event.effect_response hn hv]
  constructor
  case returned =>
    have hreturned := h.returned
    rw [if_pos hheld] at hreturned
    have hentry : (s.entry most e).returns n = !(s.step most e).desk.holds n := by
      rw [Entry.returns, show (s.entry most e).before.holds n = true from hheld]
      rfl
    rw [Session.returned_step, hreturned, hentry]
    cases (s.step most e).desk.holds n <;> rfl
  case waiting =>
    intro hstill
    rw [hwaits', Bool.and_eq_true, Bool.and_eq_true, Bool.not_eq_true', Bool.not_eq_true',
      Option.isNone_iff_eq_none] at hstill
    obtain ⟨⟨hthere, hnone⟩, hstays⟩ := hstill
    obtain ⟨hreplies, hgot, hcancelled⟩ := h.waiting (by rw [hwaits, hthere]; rfl)
    refine ⟨?_, ?_, ?_⟩
    · rw [Session.replies_step hn, hnone, hreplies]
      rfl
    · rw [hresponses, hthere, hnone, hgot]
      rfl
    · rw [Session.cancelled_step hn, hstays, hcancelled]
      rfl
  case left =>
    intro hleft
    rw [Session.cancelled_step hn, Bool.or_eq_true] at hleft
    rw [hresponses]
    rcases hleft with hleaves | hleft
    · have hgot := (h.waiting (by rw [hwaits, hgone hleaves]; rfl)).2.1
      rw [hgot, Event.reply?_of_isDisconnect most hleaves, ite_self]
      rfl
    · -- Who has left does not wait any more.
      have hthere : v.clientGone = true := by
        by_contra hthere
        have hnot := (h.waiting (by rw [hwaits, Bool.eq_false_iff.mpr hthere]; rfl)).2.2
        rw [hnot] at hleft
        exact Bool.false_ne_true hleft
      rw [hthere, h.left hleft]
      rfl
  case told =>
    intro hover hnot
    rw [Session.cancelled_step hn, Bool.or_eq_false_iff] at hnot
    rw [Session.replies_step hn, hresponses]
    cases hthere : v.clientGone with
    | true =>
      -- Nobody waited any more: what there was first remains the first.
      obtain ⟨r, hreply, hgot⟩ := h.told (by rw [hwaits, hthere]; rfl) hnot.2
      refine ⟨r, ?_, hgot⟩
      rw [List.getLast?_append, hreply]
      rfl
    | false =>
      -- Somebody waited, so there was nothing before.
      obtain ⟨hreplies, hgot, -⟩ := h.waiting (by rw [hwaits, hthere]; rfl)
      rw [hwaits', hthere, hnot.1, Bool.not_false, Bool.true_and, Bool.and_true,
        Option.isNone_eq_false_iff, Option.isSome_iff_exists] at hover
      obtain ⟨r, hr⟩ := hover
      rw [hreplies, hgot, hr]
      exact ⟨r, rfl, rfl⟩
  case unanswered =>
    intro hkept hanswered
    rw [hheld', Bool.not_eq_true'] at hkept
    rw [Session.answered_step hn, Bool.or_eq_false_iff] at hanswered
    rw [Session.replies_step hn, Event.reply?_eq_none hkept hanswered.1,
      h.unanswered hheld hanswered.2]
    rfl
  case running =>
    intro hkept
    rw [hheld', Bool.not_eq_true'] at hkept
    rw [Session.brokeDown_step hn, h.running hheld, Bool.or_false]
    by_contra hbroke
    have hends := (Event.of_isBreakdown most s.desk (by simpa using hbroke)).2
    rw [hkept] at hends
    exact Bool.false_ne_true hends
  case broken =>
    intro hbroke
    rw [Session.brokeDown_step hn, h.running hheld, Bool.or_false] at hbroke
    obtain ⟨hreply, -⟩ := Event.of_isBreakdown most s.desk hbroke
    have hanswered : s.answered n = false := Session.unanswered_of_admits he hbroke hn
    rw [Session.replies_step hn, hreply, h.unanswered hheld hanswered]
    rfl

/-! ### All visits -/

/-- Whether a request comes in and is not turned away. -/
def Entry.isAdmission (x : Entry) : Bool := x.event.visit?.isNone && x.response.isNone

/-- The visits are numbered as requests are admitted. -/
theorem Session.nextVisit_step (hsound : s.desk.Sound limit) (he : s.desk.admits e = true) :
    (s.step most e).desk.nextVisit =
      s.desk.nextVisit + if (s.entry most e).isAdmission then 1 else 0 := by
  rw [step, entry, Entry.isAdmission]
  cases hn : e.visit? with
  | none =>
    rw [Event.eq_arrive hn]
    rcases hsound.effect_arrive most with ⟨-, heq⟩ | ⟨-, heq⟩
    · rw [heq]
      rfl
    · rw [heq]
      rfl
  | some n =>
    obtain ⟨v, hv, -⟩ := Desk.admits_visit he hn
    have hkept : (e.effect most s.desk).2.nextVisit = s.desk.nextVisit := by
      rcases (Event.change most hn hv).desk with ⟨w, heq⟩ | heq
      · rw [heq]
        rfl
      · rw [heq]
        rfl
    exact hkept

theorem Reached.nextVisit_eq (h : Reached limit most s) :
    s.desk.nextVisit = s.log.countP Entry.isAdmission := by
  induction h with
  | start => rfl
  | step h he ih =>
    rw [Session.nextVisit_step h.sound (Session.admits_desk he), ih, Session.step, List.countP_cons]

/-- Of numbers that were not given yet the log tells nothing. -/
theorem Reached.untold (h : Reached limit most s) (hn : s.desk.nextVisit ≤ n) :
    s.about n = [] ∧ s.returned n = 0 := by
  induction h with
  | start => exact ⟨rfl, rfl⟩
  | @step s e h he ih =>
    replace he := Session.admits_desk he
    have hle : s.desk.nextVisit ≤ n := by
      rw [Session.nextVisit_step h.sound he] at hn
      omega
    have hnot : s.desk.holds n = false :=
      Bool.eq_false_iff.mpr fun hheld => Nat.not_lt.mpr hle (h.sound.known n hheld)
    obtain ⟨habout, hreturned⟩ := ih hle
    constructor
    · rw [Session.about_step_other, habout]
      intro hvisit
      -- An event finds the visit that it is about, and this one is not there.
      obtain ⟨v, hv, -⟩ := Desk.admits_visit he hvisit
      rw [Desk.holds_iff.mpr ⟨v, hv⟩] at hnot
      exact Bool.false_ne_true hnot.symm
    · rw [Session.returned_step, hreturned, Entry.returns,
        show (s.entry most e).before.holds n = false from hnot]
      rfl

/-- A visit that has just begun. -/
theorem accounted_letIn (hsound : s.desk.Sound limit) (hnothing : s.about s.desk.nextVisit = [])
    (hreturned : s.returned s.desk.nextVisit = 0)
    (heq : Event.arrive.effect most s.desk = (none, s.desk.letIn)) :
    Accounted most (s.step most .arrive) s.desk.nextVisit := by
  have habout : (s.step most .arrive).about s.desk.nextVisit = [] := by
    rw [Session.about_step_other (by simp [Event.visit?]), hnothing]
  have hdesk : (s.step most .arrive).desk = s.desk.letIn := by rw [Session.step, heq]
  have hheld : (s.step most .arrive).desk.holds s.desk.nextVisit = true := by
    rw [hdesk, Desk.holds_letIn]
    simp
  have hwaits : (s.step most .arrive).desk.waits s.desk.nextVisit = true := by
    rw [hdesk, Desk.waits, Desk.letIn, Keyed.find_set_self]
    rfl
  have hnew : s.desk.holds s.desk.nextVisit = false := by
    rw [Desk.holds, Keyed.contains, hsound.new]
    rfl
  constructor
  case returned =>
    rw [Session.returned_step, hreturned, Entry.returns, hheld,
      show (s.entry most .arrive).before.holds s.desk.nextVisit = false from hnew]
    rfl
  case waiting =>
    intro _
    rw [Session.replies, Session.responsesTo, Session.cancelled, habout]
    exact ⟨rfl, rfl, rfl⟩
  case left =>
    intro _
    rw [Session.responsesTo, habout]
    rfl
  case told =>
    intro hover
    rw [hwaits] at hover
    cases hover
  case unanswered =>
    intro _ _
    rw [Session.replies, habout]
    rfl
  case running =>
    intro _
    rw [Session.brokeDown, habout]
    rfl
  case broken =>
    intro hbroke
    rw [Session.brokeDown, habout] at hbroke
    cases hbroke

theorem Reached.accounted (h : Reached limit most s) (hn : n < s.desk.nextVisit) :
    Accounted most s n := by
  induction h with
  | start => exact absurd hn (Nat.not_lt_zero n)
  | @step s e h he ih =>
    have hadmits := Session.admits_desk he
    by_cases hvisit : e.visit? = some n
    · obtain ⟨v, hv, -⟩ := Desk.admits_visit hadmits hvisit
      exact (ih (h.sound.known n (Desk.holds_iff.mpr ⟨v, hv⟩))).mine he hvisit
    by_cases hold : n < s.desk.nextVisit
    · exact (ih hold).other h.sound hadmits hvisit hold
    · -- The visit begins with this event.
      rw [Session.nextVisit_step h.sound hadmits] at hn
      cases hm : e.visit? with
      | some m =>
        rw [Entry.isAdmission, show (s.entry most e).event.visit? = some m from hm] at hn
        exact absurd hn hold
      | none =>
        rw [Event.eq_arrive hm] at hn ⊢
        rcases h.sound.effect_arrive most with ⟨-, heq⟩ | ⟨-, heq⟩
        · rw [Session.entry, heq] at hn
          exact absurd hn hold
        · rw [Session.entry, heq] at hn
          obtain rfl : n = s.desk.nextVisit :=
            Nat.le_antisymm (Nat.lt_succ_iff.mp hn) (Nat.not_lt.mp hold)
          obtain ⟨habout, hreturned⟩ := h.untold (Nat.le_refl _)
          exact accounted_letIn h.sound habout hreturned heq

/-- A place is given back exactly by the event with which the visit ends. -/
theorem Session.returns_entry (hsound : s.desk.Sound limit) (he : s.desk.admits e = true) (n : Nat) :
    (s.entry most e).returns n = (s.entry most e).ends most n := by
  by_cases hn : e.visit? = some n
  · obtain ⟨v, hv, -⟩ := Desk.admits_visit he hn
    have hheld : (s.entry most e).before.holds n = true := Desk.holds_iff.mpr ⟨v, hv⟩
    have hafter : (s.entry most e).after.holds n = !e.ends most s.desk := Event.effect_holds hn hv
    rw [Entry.returns, hheld, hafter, Entry.ends, Bool.not_not,
      show (s.entry most e).event.visit? = some n from hn]
    simp [entry]
  · have hends : (s.entry most e).ends most n = false := by
      rw [Entry.ends, show (s.entry most e).event.visit? = e.visit? from rfl, decide_eq_false hn]
      rfl
    rw [hends, Entry.returns]
    by_cases hold : n < s.desk.nextVisit
    · have hkept : (s.entry most e).after.holds n = (s.entry most e).before.holds n :=
        congrArg Option.isSome (Event.effect_other he hsound hn hold)
      rw [hkept, Bool.and_not_self]
    · have hnot : (s.entry most e).before.holds n = false :=
        Bool.eq_false_iff.mpr fun hheld => hold (hsound.known n hheld)
      rw [hnot, Bool.false_and]

/-- **Admission**, whatever happens in whatever order. No more requests are in hand than there are
places; a request is told that the gateway is busy exactly if all places are taken when it comes in,
and else it gets one. A place is given back by the event with which the visit ends and by no other,
so each is given back once. Of each visit that is not given up by its client, exactly one response
is made: the first that there was, which is the one for a broken pipeline if it broke down. -/
theorem visits_settled (h : Reached limit most s) :
    (s.desk.nextVisit = s.log.countP Entry.isAdmission ∧
      s.desk.inHand = (List.range s.desk.nextVisit).countP s.desk.holds ∧
      s.desk.inHand ≤ limit) ∧
    (∀ x ∈ s.log, x.event = .arrive →
      (x.response = some RequestError.busy.response ↔ x.before.inHand = limit) ∧
      (x.response = none ↔ x.before.inHand < limit)) ∧
    (∀ x ∈ s.log, ∀ n, x.returns n = x.ends most n) ∧
    ∀ n < s.desk.nextVisit,
      s.returned n = (if s.desk.holds n then 0 else 1) ∧
      (s.desk.waits n = true ∨ s.cancelled n = true → s.responsesTo n = []) ∧
      (s.desk.waits n = false → s.cancelled n = false →
        ∃ r, (s.replies most n).getLast? = some r ∧ s.responsesTo n = [r] ∧
          (s.brokeDown n = true →
            r = .plain .internalServerError "Gateway error: request pipeline panicked")) := by
  refine ⟨⟨h.nextVisit_eq, h.sound.inHand_eq_countP, h.sound.few⟩, ?_, ?_, ?_⟩
  · intro x hx harrive
    obtain ⟨s', h', -, heq⟩ := h.of_mem hx
    rw [harrive] at heq
    rw [heq]
    rcases h'.sound.effect_arrive most with ⟨hfull, heffect⟩ | ⟨hroom, heffect⟩
    · rw [Session.entry, heffect]
      exact ⟨iff_of_true rfl hfull, iff_of_false nofun (Nat.not_lt.mpr (Nat.le_of_eq hfull.symm))⟩
    · rw [Session.entry, heffect]
      exact ⟨iff_of_false nofun (Nat.ne_of_lt hroom), iff_of_true rfl hroom⟩
  · intro x hx n
    obtain ⟨s', h', he, heq⟩ := h.of_mem hx
    rw [heq]
    exact Session.returns_entry h'.sound he n
  · intro n hn
    have hn := h.accounted hn
    refine ⟨hn.returned, ?_, ?_⟩
    · rintro (hwaits | hleft)
      · exact (hn.waiting hwaits).2.1
      · exact hn.left hleft
    · intro hover hnot
      obtain ⟨r, hfirst, hgot⟩ := hn.told hover hnot
      refine ⟨r, hfirst, hgot, ?_⟩
      intro hbroke
      rw [hn.broken hbroke] at hfirst
      exact (Option.some.inj hfirst).symm

/-- Two places. The third request is turned away until the body of the first proves too long. A
client leaves while its body is read and makes room; another one leaves later, and its place is
taken until the pipeline is done, so that one more request is turned away. One pipeline breaks down,
one body cannot be read. -/
theorem visits_settled_two :
    let fit : Incoming :=
      ⟨"POST", ⟨none, none, ['/'], none⟩, .empty, .ok emptyBody, ⟨.v4 [10, 0, 0, 2], 4000⟩⟩
    let long : Incoming := { fit with body := .ok ⟨#[1, 2, 3, 4]⟩ }
    let unreadable : Incoming := { fit with body := .error "cut off" }
    let fine : Response := .plain .ok "fine"
    let events := [.arrive, .arrive, .arrive, .read 0 long, .arrive, .disconnect 1, .arrive,
      .read 2 fit, .finish 2 none, .read 3 fit, .disconnect 3, .arrive, .arrive,
      .finish 3 (some fine), .read 4 unreadable, .arrive, .read 5 fit, .answer 5 fine]
    let s := (Session.start 2).run 3 events
    Reached 2 3 s ∧ s.desk.inHand = 1 ∧ s.desk.holds 5 = true ∧
      (∀ n < 5, s.returned n = 1) ∧ s.responsesTo 0 = [RequestError.bodyTooLarge.response] ∧
      s.responsesTo 1 = [] ∧
      s.responsesTo 2 =
        [.plain .internalServerError "Gateway error: request pipeline panicked"] ∧
      s.responsesTo 3 = [] ∧ s.responsesTo 5 = [fine] := by
  intro fit long unreadable fine events s
  have hs : Reached 2 3 s := .run events .start (by decide +kernel)
  have hvisits := (visits_settled hs).2.2.2
  have hnext : s.desk.nextVisit = 6 := by decide +kernel
  have hone : ∀ n, n < 6 → s.desk.waits n = false → s.cancelled n = false →
      ∀ r, (s.replies 3 n).getLast? = some r → s.responsesTo n = [r] := by
    intro n hn hover hnot r hfirst
    obtain ⟨r', hfirst', hgot, -⟩ := (hvisits n (hnext ▸ hn)).2.2 hover hnot
    rw [hfirst] at hfirst'
    rw [hgot, Option.some.inj hfirst']
  refine ⟨hs, by decide +kernel, by decide +kernel, ?_, ?_, ?_, ?_, ?_, ?_⟩
  · intro n hn
    have hfree : ∀ m < 5, s.desk.holds m = false := by decide +kernel
    have hreturned := (hvisits n (by omega)).1
    rwa [hfree n hn] at hreturned
  · exact hone 0 (by decide) (by decide +kernel) (by decide +kernel) _ (by decide +kernel)
  · exact (hvisits 1 (by omega)).2.1 (.inr (by decide +kernel))
  · obtain ⟨r, -, hgot, hbroken⟩ :=
      (hvisits 2 (by omega)).2.2 (by decide +kernel) (by decide +kernel)
    rw [hgot, hbroken (by decide +kernel)]
  · exact (hvisits 3 (by omega)).2.1 (.inr (by decide +kernel))
  · exact hone 5 (by decide) (by decide +kernel) (by decide +kernel) _ (by decide +kernel)

end HttpGateway.Request
