/-
Which connections are lent again.

* **History** — a pool in use, with the connections that were given back, those that are closed, and
  who looks at an idle connection to see whether it can still be used.
* **Act** — an event, or a step of such a look: whether the connection is open and fresh is tested
  first, and then it has to get ready for another exchange. Others go on while someone looks.
* **History.Reached** — the histories to which runs at non-decreasing times lead.
* **History.Kept** — what holds in all of them: the account of the connections is even, and those
  that are idle stand in the order in which they were given back, the last one in front.
* `lent_again_is_latest` — so a connection that is closed is never lent again, and one that is lent
  again can be used and is the one given back last of all that can.

Whoever looks has taken the connection out of the idle ones. It is therefore compared with those that
were idle when it was drawn; what is given back during the look comes too late for it. Nor does the
time count that it then takes to get ready: it is not idle any more.
-/
import HttpGateway.Proofs.Pool.Places

namespace HttpGateway.Pool

/-- A connection that was given back, and when. -/
structure Return where
  id : Nat
  time : Instant
deriving DecidableEq, Repr

/-- What was noted when an idle connection was given back. -/
def Idle.mark (i : Idle) : Return := ⟨i.connection.id, i.since⟩

def marks (l : List Idle) : List Return := l.map Idle.mark

namespace Event

/-- The time at which an event takes place, if it makes a difference. -/
def time? : Event → Option Instant
  | take _ now | putBack _ now | release _ now | evict now => some now
  | _ => none

/-- The connection that an event gives back, and when. -/
def givesBack? (p : Pool) : Event → Option (Connection × Instant)
  | putBack t now | release t now => (p.lent? t).map fun c => (c, now)
  | _ => none

/-- What is noted of a connection that is given back. One that the backend has closed is not kept. -/
def returns? (p : Pool) (e : Event) : Option Return :=
  ((e.givesBack? p).filter (·.1.isOpen)).map fun (c, now) => ⟨c.id, now⟩

end Event

variable {p q : Pool} {t n : Nat} {c : Connection} {now : Instant} {e : Event}

/-! ### What becomes of the idle connections -/

theorem returns?_of_givesBack (h : e.givesBack? p = some (c, now)) :
    (e.returns? p).toList = if c.isOpen then [⟨c.id, now⟩] else [] := by
  rw [Event.returns?, h]
  cases hopen : c.isOpen <;> simp [hopen]

theorem marks_keep (p : Pool) (c : Connection) (now : Instant) :
    (marks (p.keep c now).idle).Sublist
      ((if c.isOpen then [⟨c.id, now⟩] else []) ++ marks p.idle) := by
  unfold keep
  split
  · exact (List.take_sublist _ _).map Idle.mark
  · exact List.Sublist.refl _

theorem marks_noteClosed (p : Pool) (closed : Nat → Bool) :
    marks (p.noteClosed closed).idle = marks p.idle := by
  rw [marks, marks, noteClosed, List.map_map]
  refine List.map_congr_left fun i _ => ?_
  show (⟨(i.connection.afterClosing closed).id, i.since⟩ : Return) = ⟨i.connection.id, i.since⟩
  rw [Connection.afterClosing]
  split <;> rfl

theorem pick_sublist (limit now : Instant) (l : List Idle) : (pick limit now l).2.Sublist l := by
  induction l with
  | nil => exact List.Sublist.refl _
  | cons i rest ih =>
    rw [pick]
    split
    · exact List.sublist_cons_self ..
    · exact ih.trans (List.sublist_cons_self ..)

/-- Idle connections stay in their order. One that is given back comes in front. -/
theorem marks_effect (p : Pool) (e : Event) :
    (marks (e.effect p).idle).Sublist ((e.returns? p).toList ++ marks p.idle) := by
  have hsame : ∀ {q : Pool}, q.idle.Sublist p.idle →
      (marks q.idle).Sublist ((e.returns? p).toList ++ marks p.idle) := fun h =>
    (h.map Idle.mark).trans (List.sublist_append_right ..)
  have hrefl : ∀ {q : Pool}, q.idle = p.idle →
      (marks q.idle).Sublist ((e.returns? p).toList ++ marks p.idle) := fun h =>
    hsame (h ▸ List.Sublist.refl _)
  cases e with
  | take t now =>
    simp only [Event.effect, take]
    split
    · split
      · next c idle hpick =>
        have hsub := pick_sublist p.limits.idleTimeout now p.idle
        rw [hpick] at hsub
        exact hsame hsub
      · next idle hpick =>
        have hsub := pick_sublist p.limits.idleTimeout now p.idle
        rw [hpick] at hsub
        exact hsame hsub
    · exact hrefl rfl
  | release t now =>
    simp only [Event.effect, release]
    split
    · next permit c hs =>
      have hback : (Event.release t now).givesBack? p = some (c, now) := by
        rw [Event.givesBack?, lent?_of_holding hs, Option.map_some]
      rw [leave_idle, returns?_of_givesBack hback]
      exact marks_keep p c now
    · exact hrefl rfl
  | putBack t now =>
    simp only [Event.effect, putBack]
    split
    · next permit c hs =>
      have hback : (Event.putBack t now).givesBack? p = some (c, now) := by
        rw [Event.givesBack?, lent?_of_holding hs, Option.map_some]
      rw [returns?_of_givesBack hback]
      exact marks_keep p c now
    · exact hrefl rfl
  | noteClosed closed =>
    show (marks (p.noteClosed closed).idle).Sublist _
    rw [marks_noteClosed]
    exact List.sublist_append_right ..
  | evict now => exact hsame List.filter_sublist
  | draw t =>
    simp only [Event.effect, draw]
    split
    · next permit i rest _ hi => exact hsame (hi ▸ List.sublist_cons_self i rest)
    · exact hrefl rfl
  | lapse t =>
    simp only [Event.effect, lapse]
    split
    · exact hrefl (leave_idle ..)
    · exact hrefl (handOn_idle _)
    · exact hrefl rfl
  | leave t => exact hrefl (leave_idle ..)
  | _ =>
    -- The others only change seats and permits.
    refine hrefl ?_
    simp only [Event.effect, ask, askLate, enter, expire, discard, opened]
    repeat' split
    all_goals rfl

/-! ### Histories -/

/-- A look at an idle connection: which one was drawn, which ones were idle behind it, what had been
given back by then, and when it was tested, if it was. -/
structure Look where
  drawn : Idle
  behind : List Idle
  returned : List Return
  tested : Option Instant
deriving DecidableEq

/-- A pool in use. `returned` has every connection that was ever kept at its last return, the latest
one in front; `gone` has those that were closed. -/
structure History where
  session : Session
  returned : List Return
  gone : List Nat
  looks : List Look

/-- What is done: an event, or someone who has drawn an idle connection tests whether it is open and
fresh, or has waited for it and finds out whether it is ready for another exchange. -/
inductive Act
  | does (e : Event)
  | test (ticket : Nat)
  | judge (ticket : Nat) (ready : Bool)

namespace History

def start (limits : Limits) (authority : String) : History where
  session := .start limits authority
  returned := []
  gone := []
  looks := []

abbrev pool (h : History) : Pool := h.session.pool

/-- The look at a connection that is under way. -/
def look? (h : History) (c : Connection) : Option Look :=
  h.looks.find? (·.drawn.connection.id = c.id)

/-- The connection that someone has and the look at it that is under way. -/
def lookBy? (h : History) (ticket : Nat) : Option (Connection × Look) :=
  (h.pool.lent? ticket).bind fun c => (h.look? c).map fun l => (c, l)

/-- Whether something can be done at a time. Nobody gives a connection back that was not handed out
yet. A connection is tested once and then waited for, and one that is closed never gets ready. -/
def admits (h : History) (now : Instant) : Act → Bool
  | .does e => h.session.admits e && e.time?.all (· = now) &&
      (e.givesBack? h.pool).all fun (c, _) => (h.look? c).isNone
  | .test t => (h.lookBy? t).any fun (_, l) => l.tested.isNone
  | .judge t ready => (h.lookBy? t).any fun (c, l) => l.tested.isSome && (!ready || c.isOpen)

/-- The look that an event begins. -/
def begins? (h : History) : Event → Option Look
  | .draw t =>
    match h.pool.isAdmitted t, h.pool.idle with
    | true, i :: rest => some ⟨i, rest, h.returned, none⟩
    | _, _ => none
  | _ => none

/-- What was given back, after an event. -/
def returnedAfter (h : History) (e : Event) : List Return :=
  match e.returns? h.pool with
  | some r => r :: h.returned.filter (·.id ≠ r.id)
  | none => h.returned

/-- The history after an event. -/
def does (h : History) (e : Event) : History where
  session := h.session.step e
  returned := h.returnedAfter e
  gone := e.lost h.pool ++ h.gone
  looks := (h.begins? e).toList
    ++ h.looks.filter fun l => l.drawn.connection.id ∉ e.lost h.pool

/-- The looks at other connections. -/
def looksElsewhere (h : History) (c : Connection) : List Look :=
  h.looks.filter (·.drawn.connection.id ≠ c.id)

/-- The history after something was done. A connection that does not pass the test or is not ready is
discarded. One that is ready is handed out. -/
def step (h : History) (now : Instant) : Act → History
  | .does e => h.does e
  | .test t =>
    match h.lookBy? t with
    | some (c, l) =>
      if usable h.pool.limits.idleTimeout now ⟨c, l.drawn.since⟩ then
        { h with looks := { l with tested := some now } :: h.looksElsewhere c }
      else h.does (.discard t)
    | none => h
  | .judge t ready =>
    match h.lookBy? t with
    | some (c, _) =>
      if ready then { h with looks := h.looksElsewhere c } else h.does (.discard t)
    | none => h

/-- The history after several things were done, each at its time. -/
def run (h : History) : List (Instant × Act) → History
  | [] => h
  | (now, a) :: rest => (h.step now a).run rest

/-- Whether several things can be done one after another, from a time on. -/
def canRun (h : History) (t : Instant) : List (Instant × Act) → Bool
  | [] => true
  | (now, a) :: rest => t ≤ now && h.admits now a && (h.step now a).canRun now rest

/-- The histories that can be reached from a new pool, and the time of the last step. -/
inductive Reached (limits : Limits) (authority : String) : Instant → History → Prop
  | start {t : Instant} : Reached limits authority t (.start limits authority)
  | step {t now : Instant} {h : History} {a : Act} : Reached limits authority t h → t ≤ now →
      h.admits now a → Reached limits authority now (h.step now a)

end History

/-- The time of the last of several things that were done. -/
def lastTime (t : Instant) : List (Instant × Act) → Instant
  | [] => t
  | (now, _) :: rest => lastTime now rest

theorem History.Reached.run {limits : Limits} {authority : String} (acts : List (Instant × Act)) :
    ∀ {t : Instant} {h : History}, History.Reached limits authority t h → h.canRun t acts = true →
      History.Reached limits authority (lastTime t acts) (h.run acts) := by
  induction acts with
  | nil => exact fun hr _ => hr
  | cons x rest ih =>
    intro t h hr hrun
    simp only [History.canRun, Bool.and_eq_true, decide_eq_true_eq] at hrun
    exact ih (hr.step hrun.1.1 hrun.1.2) hrun.2

/-! ### The order of the idle connections -/

/-- A connection was given back after all others of some idle ones. -/
def Latest (returned : List Return) (among : List Idle) (i : Idle) : Prop :=
  ∃ newer older, returned = newer ++ i.mark :: older ∧
    ∀ j ∈ among, j.connection.id ∉ newer.map (·.id)

/-- Idle connections stand in the order in which they were given back, which is in the past. -/
structure InOrder (idle : List Idle) (returned : List Return) (now : Instant) : Prop where
  distinct : (returned.map (·.id)).Nodup
  past : ∀ r ∈ returned, r.time ≤ now
  order : (marks idle).Sublist returned

namespace InOrder

variable {idle idle' front rest : List Idle} {i : Idle} {returned : List Return} {later : Instant}

theorem mono (h : InOrder idle returned now) (hle : now ≤ later) : InOrder idle returned later :=
  ⟨h.distinct, fun r hr => Nat.le_trans (h.past r hr) hle, h.order⟩

theorem sublist (h : InOrder idle returned now) (hsub : (marks idle').Sublist (marks idle)) :
    InOrder idle' returned now :=
  ⟨h.distinct, h.past, hsub.trans h.order⟩

/-- A connection that was not idle is given back. -/
theorem cons (h : InOrder idle returned now) {r : Return} (htime : r.time ≤ now)
    (hnew : ∀ i ∈ idle, i.connection.id ≠ r.id) (hsub : (marks idle').Sublist (r :: marks idle)) :
    InOrder idle' (r :: returned.filter (·.id ≠ r.id)) now where
  distinct := by
    refine List.nodup_cons.mpr ⟨fun hmem => ?_, h.distinct.sublist (List.filter_sublist.map _)⟩
    obtain ⟨r', hr', hid⟩ := List.mem_map.mp hmem
    exact of_decide_eq_true (List.mem_filter.mp hr').2 hid
  past := List.forall_mem_cons.mpr ⟨htime, fun r' hr' => h.past r' (List.mem_filter.mp hr').1⟩
  order := by
    have hmarks : (marks idle).filter (·.id ≠ r.id) = marks idle := by
      refine List.filter_eq_self.mpr fun r' hr' => decide_eq_true ?_
      obtain ⟨i, hi, rfl⟩ := List.mem_map.mp hr'
      exact hnew i hi
    exact hsub.trans ((hmarks ▸ h.order.filter _).cons_cons r)

/-- An idle connection was given back after all that stand behind it. -/
theorem latest (h : InOrder (front ++ i :: rest) returned now) :
    i.since ≤ now ∧ Latest returned (i :: rest) i := by
  have hsub : (i.mark :: marks rest).Sublist returned := by
    refine List.Sublist.trans ?_ h.order
    rw [marks, marks, List.map_append, List.map_cons]
    exact List.sublist_append_right ..
  obtain ⟨newer, others, rfl, hmem, hrest⟩ := List.cons_sublist_iff.mp hsub
  obtain ⟨newer, between, rfl⟩ := List.append_of_mem hmem
  refine ⟨h.past i.mark (by simp), newer, between ++ others, by simp, fun j hj hid => ?_⟩
  -- What stands in front of its mark has another number.
  have hdistinct := h.distinct
  rw [List.append_assoc, List.map_append, List.nodup_append] at hdistinct
  have hj : j.mark ∈ i.mark :: between ++ others := by
    rcases List.mem_cons.mp hj with rfl | hj
    · simp
    · exact List.mem_append_right _ (hrest.subset (List.mem_map_of_mem hj))
  exact hdistinct.2.2 _ hid _ (List.mem_map_of_mem hj) rfl

end InOrder

/-! ### What holds in every history -/

/-- Whether a connection can be lent again that has been idle since a time. -/
structure CanServe (limits : Limits) (now : Instant) (c : Connection) (since : Instant) : Prop where
  isOpen : c.isOpen = true
  since_le : since ≤ now
  fresh : now - since < limits.idleTimeout

theorem canServe {limits : Limits} {since : Instant}
    (hu : usable limits.idleTimeout now ⟨c, since⟩ = true) (hle : since ≤ now) :
    CanServe limits now c since := by
  obtain ⟨hopen, hfresh⟩ := Bool.and_eq_true_iff.mp hu
  exact ⟨hopen, hle, of_decide_eq_true hfresh⟩

/-- A look is fair if the connection was given back last of those that were idle with it, and had not
been idle for too long when it was tested. -/
structure Look.Fair (l : Look) (limits : Limits) (now : Instant) : Prop where
  order : InOrder (l.drawn :: l.behind) l.returned now
  tested : ∀ tested, l.tested = some tested →
    tested ≤ now ∧ l.drawn.since ≤ tested ∧ tested - l.drawn.since < limits.idleTimeout

namespace Look.Fair

variable {l : Look} {limits : Limits} {later : Instant}

theorem mono (h : l.Fair limits now) (hle : now ≤ later) : l.Fair limits later :=
  ⟨h.order.mono hle, fun tested ht =>
    ⟨Nat.le_trans (h.tested tested ht).1 hle, (h.tested tested ht).2⟩⟩

/-- What was drawn was given back after all that stood behind it. -/
theorem latest (h : l.Fair limits now) :
    l.drawn.since ≤ now ∧ Latest l.returned (l.drawn :: l.behind) l.drawn := by
  have horder : InOrder ([] ++ l.drawn :: l.behind) l.returned now := h.order
  exact horder.latest

theorem test (h : l.Fair limits now) (hu : usable limits.idleTimeout now ⟨c, l.drawn.since⟩ = true) :
    Look.Fair { l with tested := some now } limits now where
  order := h.order
  tested tested ht := by
    obtain rfl := Option.some.inj ht
    have hserve := canServe hu h.latest.1
    exact ⟨Nat.le_refl _, hserve.since_le, hserve.fresh⟩

end Look.Fair

theorem returns?_eq_some {r : Return} (h : e.returns? p = some r) :
    ∃ t c, p.lent? t = some c ∧ r.id = c.id ∧ e.time? = some r.time := by
  obtain ⟨⟨c, now⟩, hback, rfl⟩ := Option.map_eq_some_iff.mp h
  have hgiven : e.givesBack? p = some (c, now) := (Option.filter_eq_some_iff.mp hback).1
  cases e with
  | putBack t now' =>
    obtain ⟨c', hlent, heq⟩ := Option.map_eq_some_iff.mp hgiven
    obtain ⟨rfl, rfl⟩ := Prod.mk.inj heq
    exact ⟨t, c', hlent, rfl, rfl⟩
  | release t now' =>
    obtain ⟨c', hlent, heq⟩ := Option.map_eq_some_iff.mp hgiven
    obtain ⟨rfl, rfl⟩ := Prod.mk.inj heq
    exact ⟨t, c', hlent, rfl, rfl⟩
  | _ => exact absurd hgiven (by simp [Event.givesBack?])

namespace History

variable {h : History} {limits : Limits} {authority : String} {later : Instant}

theorem lookBy?_eq_some {l : Look} (hlook : h.lookBy? t = some (c, l)) :
    h.pool.lent? t = some c ∧ l ∈ h.looks ∧ l.drawn.connection.id = c.id := by
  obtain ⟨c', hlent, hmap⟩ := Option.bind_eq_some_iff.mp hlook
  obtain ⟨l', hfind, heq⟩ := Option.map_eq_some_iff.mp hmap
  obtain ⟨rfl, rfl⟩ := Prod.mk.inj heq
  exact ⟨hlent, List.mem_of_find?_eq_some hfind, by simpa using List.find?_some hfind⟩

/-- What holds in every history: the account of all connections is even, the idle ones are in order,
and so is every look that is under way. -/
structure Kept (h : History) (limits : Limits) (authority : String) (now : Instant) : Prop where
  session : Pool.Reached limits authority h.session
  account : ∀ k, h.pool.places k + h.gone.count k = h.pool.wasOpened k
  order : InOrder h.pool.idle h.returned now
  looks : ∀ l ∈ h.looks, l.Fair limits now

namespace Kept

theorem mono (hk : h.Kept limits authority now) (hle : now ≤ later) :
    h.Kept limits authority later :=
  ⟨hk.session, hk.account, hk.order.mono hle, fun l hl => (hk.looks l hl).mono hle⟩

theorem looksElsewhere (hk : h.Kept limits authority now) (c : Connection) :
    ∀ l ∈ h.looksElsewhere c, l.Fair limits now := fun l hl =>
  hk.looks l (List.mem_filter.mp hl).1

/-- What someone has is not idle. -/
theorem ne_of_lent (hk : h.Kept limits authority now) (hc : h.pool.lent? t = some c) :
    ∀ i ∈ h.pool.idle, i.connection.id ≠ c.id := by
  obtain ⟨permit, hs⟩ := lent?_eq_some_iff.mp hc
  have hnone := List.countP_eq_zero.mp (hk.session.placed.idleCount_lent hs)
  exact fun i hi => of_decide_eq_false (by simpa using hnone i hi)

theorem order_does (hk : h.Kept limits authority now) (ht : e.time?.all (· = now) = true) :
    InOrder (h.does e).pool.idle (h.returnedAfter e) now := by
  have hmarks := marks_effect h.pool e
  unfold returnedAfter
  cases hr : e.returns? h.pool with
  | none =>
    rw [hr] at hmarks
    exact hk.order.sublist hmarks
  | some r =>
    obtain ⟨t, c, hlent, hid, htime⟩ := returns?_eq_some hr
    rw [hr] at hmarks
    rw [htime] at ht
    exact hk.order.cons (Nat.le_of_eq (of_decide_eq_true ht)) (hid ▸ hk.ne_of_lent hlent) hmarks

theorem looks_does (hk : h.Kept limits authority now) (e : Event) :
    ∀ l ∈ (h.does e).looks, l.Fair limits now := by
  intro l hl
  rcases List.mem_append.mp hl with hl | hl
  · have hl : h.begins? e = some l := Option.mem_toList.mp hl
    unfold begins? at hl
    split at hl
    · split at hl
      · next i rest _ hidle =>
        obtain rfl := Option.some.inj hl
        exact ⟨hidle ▸ hk.order, fun _ htested => absurd htested (Option.some_ne_none _).symm⟩
      · exact absurd hl (by simp)
    · exact absurd hl (by simp)
  · exact hk.looks l (List.mem_filter.mp hl).1

theorem does (hk : h.Kept limits authority now) (he : h.session.admits e = true)
    (ht : e.time?.all (· = now) = true) : (h.does e).Kept limits authority now where
  session := hk.session.step he
  account k := by
    have heven := (effect_conserves (p := h.pool) hk.session.sound.2 e).account k
    have hbefore := hk.account k
    show (e.effect h.pool).places k + (e.lost h.pool ++ h.gone).count k
      = (e.effect h.pool).wasOpened k
    rw [List.count_append]
    omega
  order := hk.order_does ht
  looks := hk.looks_does e

theorem step (hk : h.Kept limits authority now) {a : Act} (ha : h.admits now a = true) :
    (h.step now a).Kept limits authority now := by
  cases a with
  | does e =>
    simp only [admits, Bool.and_eq_true] at ha
    exact hk.does ha.1.1 ha.1.2
  | test t =>
    simp only [History.step]
    split
    · next c l hlook =>
      obtain ⟨-, hl, -⟩ := lookBy?_eq_some hlook
      split
      · next hu =>
        rw [hk.session.sound.1] at hu
        exact { hk with
          looks := List.forall_mem_cons.mpr ⟨(hk.looks l hl).test hu, hk.looksElsewhere c⟩ }
      · exact hk.does rfl rfl
    · exact hk
  | judge t ready =>
    simp only [History.step]
    split
    · next c _ _ =>
      split
      · exact { hk with looks := hk.looksElsewhere c }
      · exact hk.does rfl rfl
    · exact hk

/-- What is in a place is not closed. -/
theorem not_mem_gone (hk : h.Kept limits authority now) {k : Nat} (hpos : 0 < h.pool.places k) :
    k ∉ h.gone := by
  intro hmem
  have hcount := List.count_pos_iff.mpr hmem
  have heven := hk.account k
  rw [wasOpened] at heven
  split at heven <;> omega

theorem not_mem_gone_of_lent (hk : h.Kept limits authority now) (hc : h.pool.lent? t = some c) :
    c.id ∉ h.gone := by
  obtain ⟨permit, hs⟩ := lent?_eq_some_iff.mp hc
  exact hk.not_mem_gone (Nat.lt_of_lt_of_le (countP_lends_pos hs) (Nat.le_add_left ..))

theorem not_mem_gone_of_idle (hk : h.Kept limits authority now) {i : Idle}
    (hi : i ∈ h.pool.idle) : i.connection.id ∉ h.gone := by
  have hpos : 0 < h.pool.idleCount i.connection.id :=
    List.countP_pos_iff.mpr ⟨i, hi, decide_eq_true rfl⟩
  exact hk.not_mem_gone (Nat.lt_of_lt_of_le hpos (Nat.le_add_right ..))

end Kept

theorem Reached.kept (hr : Reached limits authority now h) : h.Kept limits authority now := by
  induction hr with
  | start => exact
    { session := .start
      account := fun k => rfl
      order := ⟨List.nodup_nil, by simp [History.start], List.Sublist.refl _⟩
      looks := by simp [History.start] }
  | step _ hle ha ih => exact (ih.mono hle).step ha

end History

/-! ### What is lent again -/

/-- The connection that is picked is the first that can be used. -/
theorem pick_eq_some {limit : Instant} {l rest : List Idle} (h : pick limit now l = (some c, rest)) :
    ∃ front i, l = front ++ i :: rest ∧ i.connection = c ∧ usable limit now i = true ∧
      ∀ j ∈ front, usable limit now j = false := by
  induction l with
  | nil => simp [pick] at h
  | cons i l ih =>
    rw [pick] at h
    by_cases hu : usable limit now i = true
    · rw [if_pos hu] at h
      obtain ⟨hc, rfl⟩ := Prod.mk.inj h
      exact ⟨[], i, rfl, Option.some.inj hc, hu, by simp⟩
    · rw [if_neg hu] at h
      obtain ⟨front, i', rfl, hc, hu', hfront⟩ := ih h
      exact ⟨i :: front, i', rfl, hc, hu',
        List.forall_mem_cons.mpr ⟨Bool.eq_false_iff.mpr hu, hfront⟩⟩

theorem take_eq_some (h : (p.take t now).1 = some c) :
    ∃ front i rest, p.idle = front ++ i :: rest ∧ i.connection = c ∧
      usable p.limits.idleTimeout now i = true ∧
      ∀ j ∈ front, usable p.limits.idleTimeout now j = false := by
  unfold take at h
  split at h
  · split at h
    · next c' rest hpick =>
      obtain ⟨front, i, hidle, hi, hu, hfront⟩ := pick_eq_some hpick
      exact ⟨front, i, rest, hidle, hi.trans (Option.some.inj h), hu, hfront⟩
    · exact absurd h.symm (Option.some_ne_none c)
  · exact absurd h.symm (Option.some_ne_none c)

/-- **Which connections are lent again.** At any time of any history every connection that was opened
is in one place or closed, and not both. No connection that is closed is lent: not one that is taken,
not one that gets ready after it was drawn and tested, and a connection that is opened has a new
number. One that is taken is open, has been idle for less than the limit, and was given back last of
all idle ones of which this holds. One that was drawn and gets ready is open, had been idle for less
than the limit when it was tested, and was given back last of all that were idle when it was drawn. -/
theorem lent_again_is_latest {limits : Limits} {authority : String} {now : Instant} {h : History}
    (hr : History.Reached limits authority now h) :
    (∀ k, h.pool.places k + h.gone.count k = if k < h.pool.nextConnection then 1 else 0) ∧
    (∀ k, h.pool.places k ≤ 1 ∧ (k ∈ h.gone → h.pool.places k = 0)) ∧
    ∀ later, now ≤ later → ∀ t,
      (∀ c, (h.pool.take t later).1 = some c → c.id ∉ h.gone ∧
        ∃ since, ⟨c, since⟩ ∈ h.pool.idle ∧ CanServe limits later c since ∧
          Latest h.returned (h.pool.idle.filter (usable limits.idleTimeout later)) ⟨c, since⟩) ∧
      (∀ c l, h.lookBy? t = some (c, l) → h.admits later (.judge t true) = true →
        c.id ∉ h.gone ∧ l.drawn.connection.id = c.id ∧
          (∃ tested, l.tested = some tested ∧ tested ≤ later ∧
            CanServe limits tested c l.drawn.since) ∧
          Latest l.returned (l.drawn :: l.behind) l.drawn) ∧
      (h.pool.opened t).1.id ∉ h.gone ∧ h.pool.places (h.pool.opened t).1.id = 0 := by
  have hk := hr.kept
  have hlimits : h.pool.limits = limits := hk.session.sound.1
  have hplaced := hk.session.placed
  refine ⟨hk.account, fun k => ⟨hplaced.once k, fun hgone => ?_⟩, fun later hle t =>
    ⟨fun c htake => ?_, fun c l hlook hready => ?_, ?_⟩⟩
  · by_contra hpos
    exact hk.not_mem_gone (Nat.pos_of_ne_zero hpos) hgone
  · obtain ⟨front, i, rest, hidle, rfl, hu, hfront⟩ := take_eq_some htake
    have hmem : i ∈ h.pool.idle := hidle ▸ List.mem_append_right _ List.mem_cons_self
    obtain ⟨hsince, newer, older, hreturned, hlatest⟩ := (hidle ▸ hk.order.mono hle).latest
    rw [hlimits] at hu hfront
    refine ⟨hk.not_mem_gone_of_idle hmem, i.since, hmem, canServe hu hsince, newer, older, hreturned,
      fun j hj => hlatest j ?_⟩
    -- Those in front of it cannot be used.
    obtain ⟨hj, huj⟩ := List.mem_filter.mp hj
    rw [hidle] at hj
    refine (List.mem_append.mp hj).resolve_left fun hj => ?_
    rw [hfront j hj] at huj
    exact Bool.false_ne_true huj
  · obtain ⟨hlent, hl, hid⟩ := History.lookBy?_eq_some hlook
    have hfair := hk.looks l hl
    simp only [History.admits, hlook, Option.any_some, Bool.and_eq_true, Bool.not_true,
      Bool.false_or] at hready
    obtain ⟨htested, hopen⟩ := hready
    obtain ⟨tested, htested⟩ := Option.isSome_iff_exists.mp htested
    obtain ⟨hbefore, hsince, hfresh⟩ := hfair.tested tested htested
    exact ⟨hk.not_mem_gone_of_lent hlent, hid,
      ⟨tested, htested, Nat.le_trans hbefore hle, hopen, hsince, hfresh⟩, hfair.latest.2⟩
  · have hid : (h.pool.opened t).1.id = h.pool.nextConnection := by
      unfold opened
      split <;> rfl
    have heven := hk.account h.pool.nextConnection
    rw [wasOpened, if_neg (Nat.lt_irrefl _)] at heven
    rw [hid]
    refine ⟨fun hmem => ?_, Nat.eq_zero_of_add_eq_zero_right heven⟩
    have hcount := List.count_pos_iff.mpr hmem
    omega

/-- Three connections are given back, at 1, 3 and 5, and the backend closes the last one. Someone
draws that one and finds it closed. At 12 the first one has been idle for too long, and the second
one is taken. If someone else draws the second one instead and tests it at 12, it is handed out even
if it gets ready only at 14. -/
theorem lent_again_is_latest_second :
    let limits : Limits := ⟨3, 0, 1000000, .fail, 1000000, 10⟩
    let acts : List (Instant × Act) :=
      [(0, .does .ask), (0, .does .ask), (0, .does .ask), (0, .does (.findNone 0)),
        (0, .does (.findNone 1)), (0, .does (.findNone 2)), (0, .does (.opened 0)),
        (0, .does (.opened 1)), (0, .does (.opened 2)), (1, .does (.release 0 1)),
        (3, .does (.release 1 3)), (5, .does (.release 2 5)), (6, .does (.noteClosed (· = 2))),
        (7, .does .ask), (7, .does (.draw 3)), (8, .test 3)]
    let h := (History.start limits "backend:80").run acts
    let h' := h.run [(9, .does .ask), (9, .does (.draw 4)), (12, .test 4)]
    let c : Connection := ⟨1, true⟩
    let l : Look := ⟨⟨c, 3⟩, [⟨⟨0, true⟩, 1⟩], [⟨2, 5⟩, ⟨1, 3⟩, ⟨0, 1⟩], some 12⟩
    (History.Reached limits "backend:80" 8 h ∧ h.gone = [2] ∧ (h.pool.take 3 12).1 = some c ∧
      c.id ∉ h.gone ∧ ∃ since, ⟨c, since⟩ ∈ h.pool.idle ∧ CanServe limits 12 c since ∧
        Latest h.returned (h.pool.idle.filter (usable limits.idleTimeout 12)) ⟨c, since⟩) ∧
      History.Reached limits "backend:80" 12 h' ∧ h'.lookBy? 4 = some (c, l) ∧
        h'.admits 14 (.judge 4 true) = true ∧ c.id ∉ h'.gone ∧
        Latest l.returned (l.drawn :: l.behind) l.drawn := by
  intro limits acts h h' c l
  have hr : History.Reached limits "backend:80" 8 h :=
    .run acts (.start (t := 0)) (by decide +kernel)
  have htake : (h.pool.take 3 12).1 = some c := by decide +kernel
  have htaken := ((lent_again_is_latest hr).2.2 12 (by decide) 3).1 c htake
  have hr' : History.Reached limits "backend:80" 12 h' :=
    .run [(9, .does .ask), (9, .does (.draw 4)), (12, .test 4)] hr (by decide +kernel)
  have hlook : h'.lookBy? 4 = some (c, l) := by decide +kernel
  have hready : h'.admits 14 (.judge 4 true) = true := by decide +kernel
  have hlent := ((lent_again_is_latest hr').2.2 14 (by decide) 4).2.1 c l hlook hready
  exact ⟨⟨hr, by decide +kernel, htake, htaken⟩, hr', hlook, hready, hlent.1, hlent.2.2.2⟩

end HttpGateway.Pool
