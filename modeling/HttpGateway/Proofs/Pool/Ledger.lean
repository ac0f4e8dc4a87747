/-
What becomes of every connection of a pool.

* **places** — in how many places a connection is: idle, or lent to someone.
* **lent?** — the connection that someone has.
* **Event.lost** — the connections that an event closes: what is given up or discarded, what is
  given back too late, what no longer fits, and what can no longer be used.
* **Conserves** — whatever is in a place after an event was in one before it or was opened by it,
  and whatever was in a place before is still in one or was closed by it.
* `effect_conserves` — every event conserves connections.
-/
import HttpGateway.Proofs.Pool.Bounds

namespace HttpGateway.Pool

/-- Whether a connection is lent at this stage. -/
def Stage.lends (k : Nat) : Stage → Bool
  | holding _ c => c.id = k
  | _ => false

/-- How often a connection is idle. -/
def idleCount (p : Pool) (k : Nat) : Nat := p.idle.countP (·.connection.id = k)

/-- In how many places a connection is. -/
def places (p : Pool) (k : Nat) : Nat := p.idleCount k + p.seats.countP (Stage.lends k)

variable {p q : Pool} {t n k : Nat} {a b : Stage} {c : Connection} {now : Instant} {e : Event}

/-! ### One change -/

theorem places_seat (hp : Sound p n) (hb : b.lends k = false) (available pending : Nat) :
    ({ p with available, pending }.seat b).places k = p.places k := by
  have hcount := Keyed.countP_set_new (find_nextTicket hp.fresh) b (Stage.lends k)
  rw [hb] at hcount
  exact congrArg (p.idleCount k + ·) hcount

theorem places_setStage (hs : p.stage? t = some a) (b : Stage) (idle : List Idle)
    (pending next : Nat) :
    ({ p with idle, pending, nextConnection := next }.setStage t b).places k
        + (if a.lends k then 1 else 0)
      = idle.countP (·.connection.id = k) + p.seats.countP (Stage.lends k)
        + if b.lends k then 1 else 0 := by
  have hcount := Keyed.countP_set hs b (Stage.lends k)
  show idle.countP (·.connection.id = k) + (p.seats.set t b).countP (Stage.lends k) + _ = _
  omega

theorem places_handOn (hp : p.seats.keys.Nodup) : p.handOn.places k = p.places k := by
  rw [places, places, idleCount, idleCount, handOn_idle, countP_handOn hp rfl]

/-- Whoever leaves takes along what was lent. -/
theorem places_leave (hp : p.seats.keys.Nodup) (hs : p.stage? t = some a) :
    (p.leave t).places k + (if a.lends k then 1 else 0) = p.places k := by
  have hcount := countP_leave (P := Stage.lends k) hp hs rfl
  rw [places, places, idleCount, idleCount, leave_idle]
  omega

theorem places_noteClosed (closed : Nat → Bool) : (p.noteClosed closed).places k = p.places k := by
  have hid : ∀ c : Connection, (c.afterClosing closed).id = c.id := fun c => by
    unfold Connection.afterClosing
    split <;> rfl
  have hstage : ∀ s : Stage, (s.afterClosing closed).lends k = s.lends k := fun s => by
    cases s <;> simp [Stage.afterClosing, Stage.lends, hid]
  have hcount := p.seats.countP_map (Stage.afterClosing closed) (Stage.lends k)
  simp only [hstage] at hcount
  have hidle : (p.noteClosed closed).idleCount k = p.idleCount k := by
    rw [idleCount, idleCount, noteClosed, List.countP_map]
    simp only [Function.comp_def, hid]
  rw [places, places, hidle]
  exact congrArg (p.idleCount k + ·) hcount

theorem places_keep (p : Pool) (c : Connection) (now : Instant) (k : Nat) :
    (p.keep c now).places k = (p.keep c now).idleCount k + p.seats.countP (Stage.lends k) := by
  rw [places, keep_seats]

theorem sound_keep_stage (hp : Sound p n) (hs : p.stage? t = some a) (c : Connection)
    (now : Instant) : (p.keep c now).stage? t = some a ∧ (p.keep c now).seats.keys.Nodup :=
  ⟨(keep_stage ..).trans hs, (hp.keep c now).nodup⟩

theorem handOn_nextConnection (p : Pool) : p.handOn.nextConnection = p.nextConnection := by
  unfold handOn
  split <;> rfl

theorem leave_nextConnection (p : Pool) (t : Nat) :
    (p.leave t).nextConnection = p.nextConnection := by
  unfold leave
  split
  · rfl
  · dsimp only
    split
    · exact handOn_nextConnection _
    · rfl

theorem keep_nextConnection (p : Pool) (c : Connection) (now : Instant) :
    (p.keep c now).nextConnection = p.nextConnection := by
  unfold keep
  split <;> rfl

/-! ### Who has what -/

/-- The connection that someone has. -/
def lent? (p : Pool) (t : Nat) : Option Connection :=
  match p.stage? t with
  | some (.holding _ c) => some c
  | _ => none

theorem lent?_of_holding {permit : Bool} (hs : p.stage? t = some (.holding permit c)) :
    p.lent? t = some c := by
  rw [lent?, hs]

theorem lent?_eq_some_iff :
    p.lent? t = some c ↔ ∃ permit, p.stage? t = some (.holding permit c) := by
  constructor
  · intro h
    unfold lent? at h
    split at h
    · next permit c' hs => exact ⟨permit, Option.some.inj h ▸ hs⟩
    · exact absurd h.symm (Option.some_ne_none c)
  · rintro ⟨permit, hs⟩
    exact lent?_of_holding hs

theorem lent?_eq_none_iff :
    p.lent? t = none ↔ ∀ permit c, p.stage? t ≠ some (.holding permit c) := by
  constructor
  · intro h permit c hs
    rw [lent?_of_holding hs] at h
    exact Option.some_ne_none c h
  · intro h
    cases hl : p.lent? t with
    | none => rfl
    | some c =>
      obtain ⟨permit, hs⟩ := lent?_eq_some_iff.mp hl
      exact absurd hs (h permit c)

/-! ### What is closed -/

/-- The connections in a list of idle ones. -/
def ids (l : List Idle) : List Nat := l.map (·.connection.id)

theorem count_ids (l : List Idle) (k : Nat) : (ids l).count k = l.countP (·.connection.id = k) := by
  rw [ids, List.count_eq_countP, List.countP_map]
  rfl

/-- The connections that are closed when one is given back: that one, if the backend has closed it;
otherwise those that do not fit in any more. -/
def closedBy (p : Pool) (c : Connection) (now : Instant) : List Nat :=
  if c.isOpen then ids ((⟨c, now⟩ :: p.idle).drop p.limits.maxConnections) else [c.id]

/-- The connections that an event closes. -/
def Event.lost (p : Pool) : Event → List Nat
  | take t now =>
    if p.isAdmitted t then ids (p.idle.takeWhile fun i => !usable p.limits.idleTimeout now i) else []
  | discard t | leave t => ((p.lent? t).map (·.id)).toList
  | putBack t now | release t now => ((p.lent? t).map (p.closedBy · now)).getD []
  | evict now => ids (p.idle.filter fun i => !usable p.limits.idleTimeout now i)
  | _ => []

/-- Whether an event closes nothing, whatever the pool. -/
def Event.closesNothing : Event → Bool
  | take .. | discard _ | leave _ | putBack .. | release .. | evict _ => false
  | _ => true

/-! ### The account -/

/-- One if a connection was opened, otherwise nothing. -/
def wasOpened (p : Pool) (k : Nat) : Nat := if k < p.nextConnection then 1 else 0

/-- At most one connection was opened, and none has come or gone but for that one and those that
were closed. -/
structure Conserves (p q : Pool) (lost : List Nat) : Prop where
  next : q.nextConnection = p.nextConnection ∨ q.nextConnection = p.nextConnection + 1
  account : ∀ k, q.places k + lost.count k + p.wasOpened k = p.places k + q.wasOpened k

theorem conserves_of_eq {lost : List Nat} (hnext : q.nextConnection = p.nextConnection)
    (h : ∀ k, q.places k + lost.count k = p.places k) : Conserves p q lost where
  next := .inl hnext
  account k := by rw [wasOpened, wasOpened, hnext, h k]

theorem conserves_refl (p : Pool) : Conserves p p [] := ⟨.inl rfl, fun _ => rfl⟩

/-- Someone with no connection who has none afterwards. -/
theorem conserves_setStage (hs : p.stage? t = some a) (ha : ∀ k, a.lends k = false)
    (hb : ∀ k, b.lends k = false) (pending : Nat) :
    Conserves p ({ p with pending }.setStage t b) [] := by
  refine conserves_of_eq rfl fun k => ?_
  have hset := places_setStage (k := k) hs b p.idle pending p.nextConnection
  rw [ha k, hb k] at hset
  exact hset

theorem conserves_leave (hp : p.seats.keys.Nodup) (t : Nat) :
    Conserves p (p.leave t) (Event.lost p (.leave t)) := by
  refine conserves_of_eq (leave_nextConnection p t) fun k => ?_
  cases hs : p.stage? t with
  | none =>
    have hleave : p.leave t = p := by rw [leave, hs]
    rw [hleave, Event.lost, lent?_eq_none_iff.mpr (by simp [hs])]
    rfl
  | some a =>
    have hleave := places_leave (k := k) hp hs
    cases a with
    | holding permit c =>
      rw [Event.lost, lent?_of_holding hs]
      simpa [Stage.lends, List.count_singleton] using hleave
    | _ =>
      rw [Event.lost, lent?_eq_none_iff.mpr (by simp [hs])]
      exact hleave

theorem conserves_discard (t : Nat) : Conserves p (p.discard t) (Event.lost p (.discard t)) := by
  unfold discard
  split
  · next permit c hs =>
    refine conserves_of_eq rfl fun k => ?_
    have hset : (p.setStage t (.admitted permit)).places k + _ = p.places k + _ :=
      places_setStage hs (.admitted permit) p.idle p.pending p.nextConnection
    rw [Event.lost, lent?_of_holding hs]
    simpa [Stage.lends, List.count_singleton] using hset
  · next hs =>
    rw [Event.lost, lent?_eq_none_iff.mpr hs]
    exact conserves_refl p

/-- A connection that is given back is idle, or it is closed; to make room for it others are. -/
theorem idleCount_keep (p : Pool) (c : Connection) (now : Instant) (k : Nat) :
    (p.keep c now).idleCount k + (p.closedBy c now).count k
      = p.idleCount k + if c.id = k then 1 else 0 := by
  unfold keep closedBy
  split
  · rw [count_ids, idleCount, ← List.countP_append, List.take_append_drop, List.countP_cons]
    simp [idleCount]
  · simp [List.count_singleton]

theorem conserves_putBack (t : Nat) (now : Instant) :
    Conserves p (p.putBack t now) (Event.lost p (.putBack t now)) := by
  unfold putBack
  split
  · next permit c hs =>
    refine conserves_of_eq (keep_nextConnection ..) fun k => ?_
    have hset := Keyed.countP_set ((keep_stage p c now t).trans hs) (.admitted permit)
      (Stage.lends k)
    have hkeep := idleCount_keep p c now k
    have hplaces : p.places k = p.idleCount k + p.seats.countP (Stage.lends k) := rfl
    rw [keep_seats] at hset
    simp only [Stage.lends, decide_eq_true_eq, Bool.false_eq_true, if_false] at hset
    rw [Event.lost, lent?_of_holding hs]
    show (p.keep c now).idleCount k
      + ((p.keep c now).seats.set t (.admitted permit)).countP (Stage.lends k)
      + (p.closedBy c now).count k = _
    rw [keep_seats]
    omega
  · next hs =>
    rw [Event.lost, lent?_eq_none_iff.mpr hs]
    exact conserves_refl p

theorem conserves_release (hp : Sound p n) (t : Nat) (now : Instant) :
    Conserves p (p.release t now) (Event.lost p (.release t now)) := by
  unfold release
  split
  · next permit c hs =>
    obtain ⟨hs', hnodup⟩ := sound_keep_stage hp hs c now
    refine conserves_of_eq ((leave_nextConnection ..).trans (keep_nextConnection ..)) fun k => ?_
    have hleave := places_leave (k := k) hnodup hs'
    have hkeep := idleCount_keep p c now k
    have hplaces : p.places k = p.idleCount k + p.seats.countP (Stage.lends k) := rfl
    rw [places_keep] at hleave
    simp only [Stage.lends, decide_eq_true_eq] at hleave
    rw [Event.lost, lent?_of_holding hs]
    show ((p.keep c now).leave t).places k + (p.closedBy c now).count k = _
    omega
  · next hs =>
    rw [Event.lost, lent?_eq_none_iff.mpr hs]
    exact conserves_refl p

/-- The idle connections are those that stay idle, those in front of the one that is picked, and that
one. -/
theorem countP_pick (limit now : Instant) (k : Nat) (l : List Idle) :
    (pick limit now l).2.countP (·.connection.id = k)
        + (ids (l.takeWhile fun i => !usable limit now i)).count k
        + (if (pick limit now l).1.any (·.id = k) then 1 else 0)
      = l.countP (·.connection.id = k) := by
  induction l with
  | nil => rfl
  | cons i rest ih =>
    by_cases hu : usable limit now i = true
    · rw [pick, if_pos hu, List.takeWhile_cons_of_neg (by simp [hu]), List.countP_cons]
      simp [ids]
    · rw [pick, if_neg hu, List.takeWhile_cons_of_pos (by simpa using hu), List.countP_cons]
      rw [ids, List.map_cons, List.count_cons, ← ids]
      simp only [beq_iff_eq, decide_eq_true_eq]
      omega

theorem conserves_take (t : Nat) (now : Instant) :
    Conserves p (p.take t now).2 (Event.lost p (.take t now)) := by
  unfold take
  split
  · next permit hs =>
    have hadmitted : p.isAdmitted t = true := isAdmitted_iff.mpr ⟨permit, hs⟩
    have hpick := fun k => countP_pick p.limits.idleTimeout now k p.idle
    rw [Event.lost, if_pos hadmitted]
    split
    · next c idle hc =>
      refine conserves_of_eq rfl fun k => ?_
      have hset := places_setStage (k := k) hs (.holding permit c) idle p.pending p.nextConnection
      have hcount := hpick k
      have hplaces : p.places k = p.idleCount k + p.seats.countP (Stage.lends k) := rfl
      simp only [hc, Option.any_some, decide_eq_true_eq] at hcount
      simp only [Stage.lends, decide_eq_true_eq, Bool.false_eq_true, if_false] at hset
      rw [idleCount] at hplaces
      show ({ p with idle, pending := p.pending, nextConnection := p.nextConnection }.setStage t
        (.holding permit c)).places k + _ = _
      omega
    · next idle hc =>
      refine conserves_of_eq rfl fun k => ?_
      have hcount := hpick k
      simp only [hc, Option.any_none, Bool.false_eq_true, if_false, Nat.add_zero] at hcount
      show idle.countP _ + p.seats.countP (Stage.lends k) + _
        = p.idle.countP _ + p.seats.countP (Stage.lends k)
      omega
  · next hs =>
    have hadmitted : ¬ p.isAdmitted t = true := fun h => by
      obtain ⟨permit, hs'⟩ := isAdmitted_iff.mp h
      exact hs permit hs'
    rw [Event.lost, if_neg hadmitted]
    exact conserves_refl p

theorem conserves_evict (now : Instant) :
    Conserves p (p.evict now).2 (Event.lost p (.evict now)) := by
  refine conserves_of_eq rfl fun k => ?_
  have hsplit := List.countP_eq_countP_filter_add p.idle (fun i => decide (i.connection.id = k))
    (usable p.limits.idleTimeout now)
  rw [Event.lost, count_ids]
  show (p.idle.filter (usable p.limits.idleTimeout now)).countP _ + p.seats.countP (Stage.lends k)
    + _ = p.idle.countP _ + p.seats.countP (Stage.lends k)
  omega

/-- The events that close nothing. -/
theorem Change.conserves (hq : Change p e q) (hp : Sound p n) (he : e.closesNothing = true) :
    Conserves p q [] := by
  cases hq with
  | nothing => exact conserves_refl p
  | letIn => exact conserves_of_eq rfl fun k => places_seat hp rfl ..
  | queue => exact conserves_of_eq rfl fun k => places_seat hp rfl ..
  | grantLate => exact conserves_of_eq rfl fun k => places_seat hp rfl ..
  | enter hs => exact conserves_setStage hs (fun _ => rfl) (fun _ => rfl) _
  | passOver hs => exact conserves_setStage hs (fun _ => rfl) (fun _ => rfl) _
  | @refuse t hs =>
    have hleave : p.leave t
        = { p with pending := p.pending - 1, seats := p.seats.erase t } := by
      simp [Pool.leave, hs, Stage.isPending, Stage.hasPermit]
    refine conserves_of_eq rfl fun k => ?_
    exact hleave ▸ places_leave (k := k) hp.nodup hs
  | @giveUp t hs =>
    exact conserves_of_eq (leave_nextConnection p t) fun k => places_leave (k := k) hp.nodup hs
  | @goBare t hs =>
    have hset := conserves_setStage hs (b := .admitted false) (fun _ => rfl) (fun _ => rfl)
      (p.pending - 1)
    have hnodup : (p.seats.set t (.admitted false)).keys.Nodup := Keyed.nodup_set hp.nodup ..
    refine ⟨.inl (handOn_nextConnection _), fun k => ?_⟩
    rw [places_handOn hnodup, wasOpened, wasOpened, handOn_nextConnection]
    exact hset.account k
  | @draw t permit i rest hs hi =>
    refine conserves_of_eq rfl fun k => ?_
    have hset := places_setStage (k := k) hs (.holding permit i.connection) rest p.pending
      p.nextConnection
    have hplaces : p.places k = p.idleCount k + p.seats.countP (Stage.lends k) := rfl
    rw [idleCount, hi, List.countP_cons] at hplaces
    simp only [Stage.lends, decide_eq_true_eq, Bool.false_eq_true, if_false] at hset hplaces
    show ({ p with idle := rest, pending := p.pending, nextConnection := p.nextConnection }.setStage
      t (.holding permit i.connection)).places k + 0 = _
    omega
  | @opened t permit hs =>
    refine ⟨.inr rfl, fun k => ?_⟩
    have hset := places_setStage (k := k) hs (.holding permit ⟨p.nextConnection, true⟩) p.idle
      p.pending (p.nextConnection + 1)
    have hplaces : p.places k = p.idleCount k + p.seats.countP (Stage.lends k) := rfl
    have hnext : ({ p with nextConnection := p.nextConnection + 1 }.setStage t
        (.holding permit ⟨p.nextConnection, true⟩)).wasOpened k
          = p.wasOpened k + if p.nextConnection = k then 1 else 0 := by
      show (if k < p.nextConnection + 1 then 1 else 0) = (if k < p.nextConnection then 1 else 0) + _
      split <;> split <;> split <;> omega
    rw [idleCount] at hplaces
    simp only [Stage.lends, decide_eq_true_eq, Bool.false_eq_true, if_false] at hset
    rw [hnext]
    show ({ p with idle := p.idle, pending := p.pending, nextConnection := p.nextConnection + 1
      }.setStage t (.holding permit ⟨p.nextConnection, true⟩)).places k + 0 + _ = _
    omega
  | noteClosed => exact conserves_of_eq rfl fun k => places_noteClosed _
  | _ => exact absurd he Bool.false_ne_true

/-- **No connection comes from nowhere or goes nowhere**: with those that an event closes, and those
that it opens, the account is even. -/
theorem effect_conserves (hp : Sound p n) (e : Event) : Conserves p (e.effect p) (e.lost p) := by
  cases e with
  | take t now => exact conserves_take t now
  | release t now => exact conserves_release hp t now
  | putBack t now => exact conserves_putBack t now
  | discard t => exact conserves_discard t
  | leave t => exact conserves_leave hp.nodup t
  | evict now => exact conserves_evict now
  | _ => exact (Event.change p rfl).conserves hp rfl

end HttpGateway.Pool
