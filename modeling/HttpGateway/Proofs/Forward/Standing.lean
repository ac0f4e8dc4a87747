/-
How far someone has come in an exchange, and what brings them further.

* **Standing**, **Stands** — someone in an exchange waits for a permit, may look for a connection,
  opens one, or has one.
* **Shifts** — exchanges on a pool go on in such a way that one of them comes from one standing to
  another one, or begins, or ends. Those of all others stay as they are.
* `Shifts.trans` — what someone does in several steps.
* **Leads**, `leads_…` — each thing that a pool offers is such a way, from the standing in which it
  is used.
-/
import HttpGateway.Proofs.Forward.Traffic

namespace HttpGateway.Forward

open Http Pool

/-- How far someone has come. -/
inductive Standing
  | waits
  | connects
  | opens
  | holds

/-- A ticket, and how far someone with it has come; `none` for someone who has no ticket. -/
abbrev Place := Option (Nat × Standing)

/-- The ticket of a place. -/
def Place.ticket? (p : Place) : Option Nat := p.map (·.1)

theorem Place.exists_of_ticket? {place : Place} {t : Nat} (h : place.ticket? = some t) :
    ∃ s, place = some (t, s) := by
  obtain ⟨⟨t', s⟩, rfl, rfl⟩ := Option.map_eq_some_iff.mp h
  exact ⟨s, rfl⟩

/-- The place of someone who has asked for a permit. -/
def Place.ofAnswer : Answer → Place
  | .admitted t => some (t, .connects)
  | .queued t => some (t, .waits)
  | .refused => none

/-- Whether someone at a stage has come that far. -/
def Standing.fits : Standing → Stage → Bool
  | waits, a => a.isPending
  | connects, a | opens, a => a.isAdmitted
  | holds, a => a.isHolding

theorem Standing.fits_follows {s : Standing} {a b : Stage} (h : a.Follows b)
    (hs : s.fits a = true) : s.fits b = true := by
  cases h with
  | same => exact hs
  | granted => cases s <;> exact hs
  | noted => cases s <;> exact hs

namespace Traffic

variable {limits : Limits} {authority : String} {x y z : Traffic} {t : Nat} {s s' : Standing}
  {before middle after : Place} {q q' : Pool} {e : Event} {now : Instant}

/-- Someone in an exchange has come that far. -/
structure Stands (x : Traffic) (t : Nat) (s : Standing) : Prop where
  underWay : t ∈ x.underWay
  opening : t ∈ x.session.opening ↔ s = .opens
  stage : ∃ a, x.pool.stage? t = some a ∧ s.fits a = true

theorem stands_none (x : Traffic) : ∀ t s, (none : Place) = some (t, s) → x.Stands t s :=
  fun _ _ h => absurd h (by simp)

/-- What others do leaves someone's standing alone. -/
theorem Stands.event {n : Nat} (h : x.Stands t s) (hp : Sound x.pool n)
    (he : e.ticket? ≠ some t) (hy : y.session = x.session.step e) (hunder : t ∈ y.underWay) :
    y.Stands t s := by
  obtain ⟨a, ha, hfits⟩ := h.stage
  obtain ⟨b, hb, hfollows⟩ := Event.remains hp he a ha
  refine ⟨hunder, ?_, b, ?_, Standing.fits_follows hfollows hfits⟩
  · rw [hy]
    exact (x.session.mem_openingAfter he).trans h.opening
  · rw [pool, hy]
    exact hb

/-- Exchanges on a pool go on from `x` to `y`, and someone comes from the place `before` to the
place `after`. Nobody else comes or goes, or changes standing. -/
structure Shifts (limits : Limits) (authority : String) (x : Traffic) (before after : Place)
    (y : Traffic) : Prop where
  reached : Reached limits authority y
  others : ∀ t s, before.ticket? ≠ some t → x.Stands t s → y.Stands t s
  underWay : ∀ t ∈ y.underWay,
    after.ticket? = some t ∨ t ∈ x.underWay ∧ before.ticket? ≠ some t
  stands : ∀ t s, after = some (t, s) → y.Stands t s
  own : ∀ t, after.ticket? = some t → before.ticket? = some t ∨ ∀ s, ¬ x.Stands t s

theorem Shifts.trans (h₁ : Shifts limits authority x before middle y)
    (h₂ : Shifts limits authority y middle after z) :
    Shifts limits authority x before after z where
  reached := h₂.reached
  others t s hbefore hs := by
    refine h₂.others t s (fun hmiddle => ?_) (h₁.others t s hbefore hs)
    exact (h₁.own t hmiddle).elim hbefore fun hnot => hnot s hs
  underWay t ht := by
    rcases h₂.underWay t ht with hafter | ⟨hy, hmiddle⟩
    · exact .inl hafter
    · exact .inr ((h₁.underWay t hy).resolve_left hmiddle)
  stands := h₂.stands
  own t hafter := by
    by_cases hbefore : before.ticket? = some t
    · exact .inl hbefore
    · -- A ticket that is new in the second part was not there in the first one.
      rcases h₂.own t hafter with hmiddle | hnot
      · exact h₁.own t hmiddle
      · exact .inr fun s hs => hnot s (h₁.others t s hbefore hs)

/-! ### Exchanges that go on -/

/-- What someone in an exchange does without ending it. -/
theorem shifts_on (hx : Reached limits authority x) (hs : x.Stands t s) (he : e.ticket? = some t)
    (hseeks : seeks x.pool t e = true) (hadmits : x.session.admits e = true)
    (hopening : t ∈ x.session.openingAfter e ↔ s' = .opens)
    (hstage : ∃ a, (e.effect x.pool).stage? t = some a ∧ s'.fits a = true) :
    Shifts limits authority x (some (t, s)) (some (t, s'))
      { x with session := x.session.step e } where
  reached := hx.step (.seeks hs.underWay hseeks hadmits)
  others _ _ hne h := h.event hx.session.sound.2 (he ▸ hne) rfl h.underWay
  underWay t' ht' := by
    by_cases hne : t = t'
    · exact .inl (congrArg some hne)
    · exact .inr ⟨ht', fun h => hne (Option.some.inj h)⟩
  stands t' s₁ h := by
    cases h
    exact ⟨hs.underWay, hopening, hstage⟩
  own _ h := .inl h

/-- What someone does who ends an exchange. -/
theorem shifts_out (hx : Reached limits authority x) (he : e.ticket? = some t) (hstep : Step x y)
    (hsession : y.session = x.session.step e) (hunder : y.underWay = x.underWay.filter (· ≠ t)) :
    Shifts limits authority x (some (t, s)) none y where
  reached := hx.step hstep
  others t' s' hne h := by
    refine h.event hx.session.sound.2 (he ▸ hne) hsession ?_
    rw [hunder]
    exact List.mem_filter.mpr ⟨h.underWay, decide_eq_true fun h => hne (congrArg some h.symm)⟩
  underWay t' ht' := by
    rw [hunder] at ht'
    obtain ⟨hin, hne⟩ := List.mem_filter.mp ht'
    exact .inr ⟨hin, fun h => of_decide_eq_true hne (Option.some.inj h).symm⟩
  stands _ _ h := absurd h (by simp)
  own _ h := absurd h (by simp [Place.ticket?])

/-- What is done to the pool by nobody in an exchange. -/
theorem shifts_aside (hx : Reached limits authority x)
    (hplace : ∀ t s, before = some (t, s) → x.Stands t s) (he : e.ticket? = none)
    (hstep : Step x { x with session := x.session.step e }) :
    Shifts limits authority x before before { x with session := x.session.step e } := by
  have hstands : ∀ t s, x.Stands t s →
      Stands { x with session := x.session.step e } t s := fun t s h =>
    h.event hx.session.sound.2 (by simp [he]) rfl h.underWay
  refine ⟨hx.step hstep, fun t s _ h => hstands t s h, fun t ht => ?_,
    fun t s h => hstands t s (hplace t s h), fun t h => .inl h⟩
  by_cases hbefore : before.ticket? = some t
  · exact .inl hbefore
  · exact .inr ⟨ht, hbefore⟩

/-- Someone comes and gets the next ticket. -/
theorem shifts_in (hx : Reached limits authority x)
    (hask : x.pool.ask.1 = .admitted t ∨ x.pool.ask.1 = .queued t)
    (hstage : ∃ a, x.pool.ask.2.stage? t = some a ∧ s.fits a = true) (hs : s ≠ .opens) :
    Shifts limits authority x none (some (t, s))
      { x with session := x.session.step .ask, underWay := t :: x.underWay } := by
  have hsound : Sound x.pool limits.maxConnections := hx.session.sound.2
  have hnone : x.pool.stage? t = none := by
    rw [ticket_of_ask hask]
    exact find_nextTicket hsound.fresh
  refine ⟨hx.step (.begins hask), fun t' s' hne h => ?_, fun t' ht' => ?_, fun t' s' h => ?_,
    fun t' h => .inr fun s' hs' => ?_⟩
  · exact h.event (e := .ask) hsound hne rfl (List.mem_cons_of_mem _ h.underWay)
  · rcases List.mem_cons.mp ht' with rfl | hin
    · exact .inl rfl
    · exact .inr ⟨hin, by simp [Place.ticket?]⟩
  · cases h
    refine ⟨List.mem_cons_self, iff_of_false (fun hopening => ?_) hs, hstage⟩
    -- Whoever opens a connection has a seat.
    obtain ⟨permit, hseat⟩ := isAdmitted_iff.mp (hx.session.opening.admitted t hopening)
    simp [show x.session.pool.stage? t = none from hnone] at hseat
  · obtain ⟨a, ha, -⟩ := hs'.stage
    rw [← Option.some.inj h] at ha
    simp [hnone] at ha

/-! ### What a pool offers -/

/-- The exchanges can go on so that the pool becomes `q`, and someone comes from `before` to
`after`. -/
def Leads (limits : Limits) (authority : String) (x : Traffic) (before after : Place) (q : Pool) :
    Prop :=
  ∃ y, Shifts limits authority x before after y ∧ y.pool = q

theorem Leads.next (h : Leads limits authority x before (some (t, s)) q)
    (hnext : ∀ y, Reached limits authority y → y.pool = q → y.Stands t s →
      Leads limits authority y (some (t, s)) after q') :
    Leads limits authority x before after q' := by
  obtain ⟨y, hshifts, hpool⟩ := h
  obtain ⟨z, hshifts', hpool'⟩ := hnext y hshifts.reached hpool (hshifts.stands t s rfl)
  exact ⟨z, hshifts.trans hshifts', hpool'⟩

theorem leads_nothing (hx : Reached limits authority x)
    (hplace : ∀ t s, before = some (t, s) → x.Stands t s) :
    Leads limits authority x before before x.pool := by
  refine ⟨x, ⟨hx, fun _ _ _ h => h, fun t ht => ?_, hplace, fun _ h => .inl h⟩, rfl⟩
  by_cases hbefore : before.ticket? = some t
  · exact .inl hbefore
  · exact .inr ⟨ht, hbefore⟩

/-- Someone comes and is let in, or waits, or is refused. -/
theorem leads_ask (hx : Reached limits authority x) :
    Leads limits authority x none (.ofAnswer x.pool.ask.1) x.pool.ask.2 := by
  rcases x.pool.ask_cases with ⟨hanswer, hstage⟩ | ⟨hanswer, hstage⟩ | hask
  · rw [hanswer]
    exact ⟨_, shifts_in hx (.inl hanswer) ⟨_, hstage, rfl⟩ (by simp), rfl⟩
  · rw [hanswer]
    exact ⟨_, shifts_in hx (.inr hanswer) ⟨_, hstage, rfl⟩ (by simp), rfl⟩
  · rw [hask]
    exact leads_nothing hx x.stands_none

/-- A permit has come. -/
theorem leads_enter (hx : Reached limits authority x) (hs : x.Stands t .waits)
    (h : x.pool.stage? t = some .granted) :
    Leads limits authority x (some (t, .waits)) (some (t, .connects)) (x.pool.enter t) := by
  refine ⟨_, shifts_on hx hs (e := .enter t) rfl (decide_eq_true rfl) rfl
    (hs.opening.trans (iff_of_false (by simp) (by simp))) ?_, rfl⟩
  refine ⟨.admitted true, ?_, rfl⟩
  simp only [Event.effect, enter, h]
  exact Keyed.find_set_self ..

/-- A wait has lasted too long. -/
theorem leads_expire (hx : Reached limits authority x) (hs : x.Stands t .waits)
    (h : x.pool.stage? t ≠ some .granted) :
    Leads limits authority x (some (t, .waits))
      (if (x.pool.expire t).1.isSome then none else some (t, .connects)) (x.pool.expire t).2 := by
  obtain ⟨a, ha, hfits⟩ := hs.stage
  have hwaiting : x.pool.stage? t = some .waiting := by
    cases a with
    | waiting => exact ha
    | granted => exact absurd ha h
    | admitted => simp [Standing.fits, Stage.isPending] at hfits
    | holding => simp [Standing.fits, Stage.isPending] at hfits
  cases hto : x.pool.limits.onTimeout with
  | fail =>
    have hleave : (x.pool.expire t).2 = x.pool.leave t := by
      simp [expire, leave, hwaiting, hto, Stage.isPending, Stage.hasPermit]
    simp only [expire, hwaiting, hto, Option.isSome_some, if_true] at hleave ⊢
    rw [hleave]
    exact ⟨_, shifts_out hx (e := .leave t) rfl (.givesUp hs.underWay) rfl rfl, rfl⟩
  | newConnection =>
    have hseeks : seeks x.pool t (.expire t) = true := decide_eq_true ⟨rfl, hto⟩
    have hstage : (x.pool.expire t).2.stage? t = some (.admitted false) := by
      simp only [expire, hwaiting, hto]
      exact Keyed.find_set_self ..
    have hexpire : (x.pool.expire t).1.isSome = false := by simp [expire, hwaiting, hto]
    rw [hexpire, if_neg Bool.false_ne_true]
    exact ⟨_, shifts_on hx hs (e := .expire t) rfl hseeks rfl
      (hs.opening.trans (iff_of_false (by simp) (by simp))) ⟨_, hstage, rfl⟩, rfl⟩

/-- Whoever may have a connection gets an idle one, or opens one. -/
theorem leads_take (hx : Reached limits authority x) (hs : x.Stands t .connects) (now : Instant) :
    Leads limits authority x (some (t, .connects))
      (some (t, if (x.pool.take t now).1.isSome then .holds else .opens))
      (x.pool.take t now).2 := by
  obtain ⟨a, ha, hfits⟩ := hs.stage
  obtain ⟨permit, rfl⟩ : ∃ permit, a = .admitted permit := by
    cases a <;> simp [Standing.fits, Stage.isAdmitted] at hfits ⊢
  have hnot : t ∉ x.session.opening := fun h => absurd (hs.opening.mp h) (by simp)
  have hadmitted : x.session.pool.isAdmitted t = true := isAdmitted_iff.mpr ⟨permit, ha⟩
  refine ⟨_, shifts_on hx hs (e := .take t now) rfl (decide_eq_true rfl) (decide_eq_true hnot)
    ?_ ?_, rfl⟩
  · simp only [Session.openingAfter, hadmitted, Bool.true_and]
    cases htaken : (x.session.pool.take t now).1 with
    | some c => simp [show (x.pool.take t now).1 = _ from htaken, hnot]
    | none => simp [show (x.pool.take t now).1 = _ from htaken]
  · simp only [Event.effect, take, ha]
    split
    · exact ⟨_, Keyed.find_set_self .., rfl⟩
    · exact ⟨_, ha, rfl⟩

/-- A connection is there. -/
theorem leads_opened (hx : Reached limits authority x) (hs : x.Stands t .opens) :
    Leads limits authority x (some (t, .opens)) (some (t, .holds)) (x.pool.opened t).2 := by
  obtain ⟨a, ha, hfits⟩ := hs.stage
  obtain ⟨permit, rfl⟩ : ∃ permit, a = .admitted permit := by
    cases a <;> simp [Standing.fits, Stage.isAdmitted] at hfits ⊢
  have hin : t ∈ x.session.opening := hs.opening.mpr rfl
  refine ⟨_, shifts_on hx hs (e := .opened t) rfl (decide_eq_true rfl) (decide_eq_true hin)
    (iff_of_false ?_ (by simp)) ?_, rfl⟩
  · exact hx.session.opening.nodup.not_mem_erase
  · simp only [Event.effect, opened, ha]
    exact ⟨_, Keyed.find_set_self .., rfl⟩

/-- Someone gives all up. -/
theorem leads_leave (hx : Reached limits authority x) (hs : x.Stands t s) :
    Leads limits authority x (some (t, s)) none (x.pool.leave t) :=
  ⟨_, shifts_out hx (e := .leave t) rfl (.givesUp hs.underWay) rfl rfl, rfl⟩

/-- An exchange comes to its end. -/
theorem leads_settle (hx : Reached limits authority x) (hs : x.Stands t .holds) (now : Instant)
    (terms : Terms) (outbound : Outbound) (schedule : Schedule) :
    Leads limits authority x (some (t, .holds)) none
      (settle x.pool t now (attempt terms outbound schedule)) := by
  obtain ⟨a, ha, hfits⟩ := hs.stage
  obtain ⟨permit, c, rfl⟩ : ∃ permit c, a = .holding permit c := by
    cases a <;> simp [Standing.fits, Stage.isHolding] at hfits ⊢
  obtain ⟨e, he, -, hsession⟩ := ended_session hx.session ha
  exact ⟨_, shifts_out hx he (.ends now terms outbound schedule hs.underWay ha) hsession rfl, rfl⟩

/-- Idle connections are discarded. -/
theorem leads_evict (hx : Reached limits authority x)
    (hplace : ∀ t s, before = some (t, s) → x.Stands t s) (now : Instant) :
    Leads limits authority x before before (x.pool.evict now).2 :=
  ⟨_, shifts_aside hx hplace (e := .evict now) rfl (.evicts now), rfl⟩

/-- The backend closes some connections. -/
theorem leads_noteClosed (hx : Reached limits authority x)
    (hplace : ∀ t s, before = some (t, s) → x.Stands t s) (closed : Nat → Bool) :
    Leads limits authority x before before (x.pool.noteClosed closed) :=
  ⟨_, shifts_aside hx hplace (e := .noteClosed closed) rfl (.closes closed), rfl⟩

end Traffic

end HttpGateway.Forward
