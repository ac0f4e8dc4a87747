/-
Who has a seat in a pool.

* `Change.seats` — only someone who asks gets a seat.
* `leave_keys` — whoever leaves has no seat any more, and takes nobody along.
* `permit_handed_on` — the permit of whoever leaves goes to the first who waits, or is available.
* `Event.remains` — whoever has a seat keeps it whatever others do, at the same stage but for a
  permit that is granted or a connection that is closed.
* **Reached.opening** — whoever opens a connection may have one, and has none yet.
-/
import HttpGateway.Proofs.Pool.Bounds
import Mathlib.Data.List.Find

namespace HttpGateway.Pool

variable {p q : Pool} {s : Session} {t t' n : Nat} {a : Stage} {e : Event}

/-! ### Seats -/

theorem handOn_keys (hp : p.seats.keys.Nodup) : p.handOn.seats.keys = p.seats.keys := by
  unfold handOn
  split
  · next t ht => exact Keyed.keys_set (Keyed.mem_keys_of_find (stage_of_firstWaiting hp ht))
  · rfl

theorem leave_keys (hp : p.seats.keys.Nodup) (t : Nat) :
    (p.leave t).seats.keys = p.seats.keys.filter (· ≠ t) := by
  unfold leave
  split
  · next hs =>
    have hnot : t ∉ p.seats.keys := Keyed.find_eq_none_iff.mp hs
    have hne : ∀ t' ∈ p.seats.keys, t' ≠ t := fun t' ht' h => hnot (h ▸ ht')
    exact (List.filter_eq_self.mpr (by simpa using hne)).symm
  · dsimp only
    split
    · rw [handOn_keys (Keyed.nodup_erase hp t)]
      exact Keyed.keys_erase p.seats t
    · exact Keyed.keys_erase p.seats t

theorem keys_setStage (hs : p.stage? t = some a) (b : Stage) :
    (p.setStage t b).seats.keys = p.seats.keys := Keyed.keys_set (Keyed.mem_keys_of_find hs)

/-- Whoever has a seat after an event had one before, or has just come. -/
theorem Change.seats (hq : Change p e q) (hp : Sound p n) {t : Nat} (ht : t ∈ q.seats.keys) :
    t ∈ p.seats.keys ∨ t = p.nextTicket ∧ (e = .ask ∨ e = .askLate) := by
  have hleave : ∀ t', t ∈ (p.leave t').seats.keys → t ∈ p.seats.keys := fun t' h => by
    rw [leave_keys hp.nodup] at h
    exact List.mem_of_mem_filter h
  cases hq with
  | nothing => exact .inl ht
  | letIn => exact (Keyed.mem_keys_set.mp ht).elim (fun h => .inr ⟨h, .inl rfl⟩) .inl
  | queue => exact (Keyed.mem_keys_set.mp ht).elim (fun h => .inr ⟨h, .inl rfl⟩) .inl
  | grantLate => exact (Keyed.mem_keys_set.mp ht).elim (fun h => .inr ⟨h, .inr rfl⟩) .inl
  | refuse =>
    rw [Keyed.keys_erase] at ht
    exact .inl (List.mem_of_mem_filter ht)
  | giveUp => exact .inl (hleave _ ht)
  | leave => exact .inl (hleave _ ht)
  | @goBare t' hs =>
    rw [handOn_keys (Keyed.nodup_set hp.nodup ..)] at ht
    exact .inl (Keyed.keys_set (Keyed.mem_keys_of_find hs) ▸ ht)
  | putBack hs =>
    rw [keys_setStage ((keep_stage ..).trans hs), keep_seats] at ht
    exact .inl ht
  | noteClosed => exact .inl (noteClosed_keys p _ ▸ ht)
  | evict => exact .inl ht
  | enter hs => exact .inl (Keyed.keys_set (Keyed.mem_keys_of_find hs) ▸ ht)
  | passOver hs => exact .inl (Keyed.keys_set (Keyed.mem_keys_of_find hs) ▸ ht)
  | draw hs => exact .inl (Keyed.keys_set (Keyed.mem_keys_of_find hs) ▸ ht)
  | discard hs => exact .inl (Keyed.keys_set (Keyed.mem_keys_of_find hs) ▸ ht)
  | opened hs => exact .inl (Keyed.keys_set (Keyed.mem_keys_of_find hs) ▸ ht)

theorem take_keys (p : Pool) (t : Nat) (now : Instant) :
    (p.take t now).2.seats.keys = p.seats.keys := by
  unfold take
  split
  · next permit hs =>
    split
    · exact Keyed.keys_set (Keyed.mem_keys_of_find hs)
    · rfl
  · rfl

/-- The answers to someone who asks for a permit: the seat is at the stage that goes with it. -/
theorem ask_cases (p : Pool) :
    (p.ask.1 = .admitted p.nextTicket ∧ p.ask.2.stage? p.nextTicket = some (.admitted true)) ∨
    (p.ask.1 = .queued p.nextTicket ∧ p.ask.2.stage? p.nextTicket = some .waiting) ∨
    p.ask = (.refused, p) := by
  unfold ask
  split
  · exact .inl ⟨rfl, Keyed.find_set_self ..⟩
  split
  · exact .inr (.inl ⟨rfl, Keyed.find_set_self ..⟩)
  · exact .inr (.inr rfl)

/-! ### Permits -/

/-- Whoever leaves and did not wait makes no difference to who waits first. -/
theorem firstWaiting_erase (hp : p.seats.keys.Nodup) (hs : p.stage? t = some a)
    (ha : a ≠ .waiting) (pending : Nat) :
    ({ p with seats := p.seats.erase t, pending } : Pool).firstWaiting? = p.firstWaiting? := by
  show Option.map _ ((p.seats.entries.filter (·.1 ≠ t)).find? _) = Option.map _ _
  rw [List.find?_filter, List.find?_congr]
  intro e he
  -- The only entry of `t` is at another stage.
  by_cases het : e.1 = t
  · have hmem : (e.1, e.2) ∈ p.seats.entries := he
    rw [het] at hmem
    have hea : e.2 = a := Option.some.inj ((Keyed.findIn_of_mem hp hmem).symm.trans hs)
    simp [hea, ha]
  · simp [het]

/-- The permit of whoever leaves goes to the first who waits, or is available again. -/
theorem permit_handed_on (hp : p.seats.keys.Nodup) (hs : p.stage? t = some a)
    (ha : a.hasPermit = true) :
    (p.firstWaiting? = none → (p.leave t).available = p.available + 1) ∧
      ∀ t', p.firstWaiting? = some t' → (p.leave t).stage? t' = some .granted := by
  have hwaiting : a ≠ .waiting := by
    rintro rfl
    exact Bool.false_ne_true ha
  have hfirst :=
    firstWaiting_erase hp hs hwaiting (if a.isPending then p.pending - 1 else p.pending)
  have hleave : p.leave t = ({ p with
      seats := p.seats.erase t
      pending := if a.isPending then p.pending - 1 else p.pending } : Pool).handOn := by
    simp only [leave, hs, ha, if_true]
  rw [hleave, handOn, hfirst]
  refine ⟨fun hnone => by rw [hnone], fun t' hsome => ?_⟩
  rw [hsome]
  exact Keyed.find_set_self ..

/-! ### What others do -/

/-- Whose event it is. -/
def Event.ticket? : Event → Option Nat
  | enter t | expire t | lapse t | take t _ | draw t | discard t | findNone t | opened t
  | putBack t _ | release t _ | leave t => some t
  | ask | askLate | evict _ | noteClosed _ => none

/-- A stage, and what others can make of it: a permit may be handed on to someone who waits, and a
backend may close a connection that is lent. -/
inductive Stage.Follows : Stage → Stage → Prop
  | same {b : Stage} : Follows b b
  | granted : Follows .waiting .granted
  | noted {permit : Bool} {c c' : Connection} : Follows (.holding permit c) (.holding permit c')

/-- Whoever has a seat in `p` has it in `q`, at a stage that others can make of it. -/
def Remains (p q : Pool) (t : Nat) : Prop :=
  ∀ a, p.stage? t = some a → ∃ b, q.stage? t = some b ∧ a.Follows b

theorem remains_of_eq (h : q.stage? t = p.stage? t) : Remains p q t :=
  fun _ hs => ⟨_, h.trans hs, .same⟩

theorem remains_handOn (hp : p.seats.keys.Nodup) (h : p.stage? t = q.stage? t) :
    Remains q p.handOn t := by
  unfold handOn
  split
  · next t' ht' =>
    intro a hs
    by_cases hne : t' = t
    · subst hne
      obtain rfl : .waiting = a :=
        Option.some.inj ((stage_of_firstWaiting hp ht').symm.trans (h.trans hs))
      exact ⟨.granted, Keyed.find_set_self .., .granted⟩
    · exact ⟨a, (Keyed.find_set_other _ hne _).trans (h.trans hs), .same⟩
  · exact remains_of_eq h

theorem remains_leave (hp : p.seats.keys.Nodup) (hne : t' ≠ t) (h : p.stage? t = q.stage? t) :
    Remains q (p.leave t') t := by
  unfold leave
  split
  · exact remains_of_eq h
  · have hleft : (p.seats.erase t').find t = q.stage? t :=
      (Keyed.find_erase_other _ hne).trans h
    dsimp only
    split
    · exact remains_handOn (Keyed.nodup_erase hp t') hleft
    · exact remains_of_eq hleft

theorem remains_noteClosed (p : Pool) (closed : Nat → Bool) (t : Nat) :
    Remains p (p.noteClosed closed) t := by
  intro a hs
  refine ⟨a.afterClosing closed, (Keyed.find_map ..).trans (congrArg (Option.map _) hs), ?_⟩
  cases a with
  | holding => exact .noted
  | _ => exact .same

theorem Change.remains (hq : Change p e q) (hp : Sound p n) (he : e.ticket? ≠ some t) :
    Remains p q t := by
  have hseat : ∀ (available pending : Nat) (b : Stage),
      Remains p ({ p with available, pending }.seat b) t := fun _ _ b a hs =>
    ⟨a, (Keyed.find_set_other _
      (Nat.ne_of_gt (hp.fresh t (Keyed.mem_keys_of_find hs))) b).trans hs, .same⟩
  have hset : ∀ {t'} (b : Stage) (idle : List Idle) (pending next : Nat), some t' ≠ some t →
      Remains p ({ p with idle, pending, nextConnection := next }.setStage t' b) t :=
    fun b _ _ _ h => remains_of_eq (Keyed.find_set_other _ (fun h' => h (congrArg some h')) b)
  have hne : ∀ {t'}, some t' ≠ some t → t' ≠ t := fun h h' => h (congrArg some h')
  cases hq with
  | nothing => exact remains_of_eq rfl
  | letIn => exact hseat _ p.pending _
  | queue => exact hseat p.available _ _
  | grantLate => exact hseat _ _ _
  | enter => exact hset _ p.idle _ p.nextConnection he
  | refuse => exact remains_of_eq (Keyed.find_erase_other _ (hne he))
  | passOver => exact hset _ p.idle _ p.nextConnection he
  | giveUp => exact remains_leave hp.nodup (hne he) rfl
  | goBare =>
    exact remains_handOn (Keyed.nodup_set hp.nodup ..) (Keyed.find_set_other _ (hne he) _)
  | draw => exact hset _ _ p.pending p.nextConnection he
  | discard => exact hset _ p.idle p.pending p.nextConnection he
  | opened => exact hset _ p.idle p.pending _ he
  | putBack =>
    exact remains_of_eq ((Keyed.find_set_other _ (hne he) _).trans (keep_stage ..))
  | leave => exact remains_leave hp.nodup (hne he) rfl
  | evict => exact remains_of_eq rfl
  | noteClosed => exact remains_noteClosed p _ t

/-- **Whoever has a seat keeps it**, whatever others do. -/
theorem Event.remains (hp : Sound p n) (he : e.ticket? ≠ some t) : Remains p (e.effect p) t := by
  have hne : ∀ {t'}, some t' ≠ some t → t' ≠ t := fun h h' => h (congrArg some h')
  cases e with
  | take t' now =>
    simp only [effect, Pool.take]
    split
    · split
      · exact remains_of_eq (Keyed.find_set_other _ (hne he) _)
      · exact remains_of_eq rfl
    · exact remains_of_eq rfl
  | release t' now =>
    simp only [effect, Pool.release]
    split
    · next c _ => exact remains_leave (hp.keep c now).nodup (hne he) (keep_stage ..)
    · exact remains_of_eq rfl
  | _ => exact (Event.change p rfl).remains hp he

/-- Nor do others change whether someone opens a connection. -/
theorem Session.mem_openingAfter (s : Session) (he : e.ticket? ≠ some t) :
    t ∈ s.openingAfter e ↔ t ∈ s.opening := by
  have hne : ∀ {t'}, some t' ≠ some t → t ≠ t' := fun h h' => h (congrArg some h'.symm)
  cases e with
  | take t' now =>
    simp only [openingAfter]
    split
    · simp [hne he]
    · rfl
  | findNone t' =>
    simp only [openingAfter]
    split
    · simp [hne he]
    · rfl
  | opened t' => exact List.mem_erase_of_ne (hne he)
  | leave t' => exact List.mem_erase_of_ne (hne he)
  | _ => rfl

/-! ### Who opens a connection -/

/-- Whoever may have a connection may have one until it is there, or is given up. -/
theorem Change.isAdmitted (hq : Change p e q) (hp : Sound p n) (h : p.isAdmitted t = true) :
    q.isAdmitted t = true ∨ e = .draw t ∨ e = .opened t ∨ e = .leave t := by
  obtain ⟨permit, hs⟩ := isAdmitted_iff.mp h
  by_cases he : e.ticket? = some t
  · -- Most of what someone may do does not come about at this stage.
    have hnot : ∀ {t' a}, some t' = some t → p.stage? t' = some a → a = .admitted permit :=
      fun ht hs' => Option.some.inj (hs'.symm.trans (Option.some.inj ht ▸ hs))
    cases hq with
    | nothing => exact .inl h
    | draw => exact .inr (.inl (congrArg _ (Option.some.inj he)))
    | opened => exact .inr (.inr (.inl (congrArg _ (Option.some.inj he))))
    | leave => exact .inr (.inr (.inr (congrArg _ (Option.some.inj he))))
    | enter hs' => exact absurd (hnot he hs') (by simp)
    | refuse hs' => exact absurd (hnot he hs') (by simp)
    | passOver hs' => exact absurd (hnot he hs') (by simp)
    | giveUp hs' => exact absurd (hnot he hs') (by simp)
    | goBare hs' => exact absurd (hnot he hs') (by simp)
    | discard hs' => exact absurd (hnot he hs') (by simp)
    | putBack hs' => exact absurd (hnot he hs') (by simp)
    | _ => simp [Event.ticket?] at he
  · obtain ⟨b, hb, hfollows⟩ := hq.remains hp he _ hs
    cases hfollows
    exact .inl (isAdmitted_iff.mpr ⟨permit, hb⟩)

/-- Different ones open connections, and each of them may have one. -/
structure Session.Opening (s : Session) : Prop where
  nodup : s.opening.Nodup
  admitted : ∀ t ∈ s.opening, s.pool.isAdmitted t = true

theorem Session.Opening.step (h : s.Opening) (hp : Sound s.pool n) (hfine : e.isFine = true)
    (he : s.admits e = true) : (s.step e).Opening := by
  have hchange := e.change s.pool hfine
  have hkept : ∀ t ∈ s.opening, (e.effect s.pool).isAdmitted t = true ∨ e = .draw t ∨
      e = .opened t ∨ e = .leave t := fun t ht => hchange.isAdmitted hp (h.admitted t ht)
  have hadmitted : ∀ t ∈ s.opening, e ≠ .opened t → e ≠ .leave t →
      (e.effect s.pool).isAdmitted t = true := by
    intro t ht hopened hleave
    rcases hkept t ht with hk | rfl | hk | hk
    · exact hk
    · exact absurd ht (of_decide_eq_true he)
    · exact absurd hk hopened
    · exact absurd hk hleave
  -- Someone begins to open a connection, or stops because it is there or given up.
  cases e with
  | findNone t =>
    show Session.Opening ⟨s.pool, _⟩
    simp only [openingAfter]
    split
    · next hnone =>
      obtain ⟨ht, -⟩ := Bool.and_eq_true_iff.mp hnone
      exact ⟨List.nodup_cons.mpr ⟨of_decide_eq_true he, h.nodup⟩,
        List.forall_mem_cons.mpr ⟨ht, h.admitted⟩⟩
    · exact h
  | opened t =>
    refine ⟨h.nodup.erase t, fun t' ht' => ?_⟩
    obtain ⟨hne, hmem⟩ := (List.Nodup.mem_erase_iff h.nodup).mp ht'
    exact hadmitted t' hmem (by simpa using hne.symm) (by simp)
  | leave t =>
    refine ⟨h.nodup.erase t, fun t' ht' => ?_⟩
    obtain ⟨hne, hmem⟩ := (List.Nodup.mem_erase_iff h.nodup).mp ht'
    exact hadmitted t' hmem (by simp) (by simpa using hne.symm)
  | take t now => exact absurd hfine Bool.false_ne_true
  | release t now => exact absurd hfine Bool.false_ne_true
  | _ => exact ⟨h.nodup, fun t ht => hadmitted t ht (by simp) (by simp)⟩

/-- **Whoever opens a connection has none yet**, in every session that can be reached. -/
theorem Reached.opening {limits : Limits} {authority : String} {s : Session}
    (h : Reached limits authority s) : s.Opening := by
  have hboth := Reached.invariant
    (I := fun s => (s.pool.limits = limits ∧ Sound s.pool limits.maxConnections) ∧ s.Opening) ?_
    ⟨⟨rfl, sound_create limits authority⟩, List.nodup_nil, by simp [Session.start]⟩ h
  · exact hboth.2
  rintro s e hfine he ⟨⟨rfl, hp⟩, hs⟩
  have hchange := e.change s.pool hfine
  exact ⟨⟨hchange.limits, hp.change hchange⟩, hs.step hp hfine he⟩

end HttpGateway.Pool
