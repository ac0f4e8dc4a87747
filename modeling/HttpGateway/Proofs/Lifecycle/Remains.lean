/-
Who is left when a run is over.

* **names** — the names under which someone has subscribed to the signal.
* `names_dismiss_all` — tasks that end take their names with them, and no others.
* `waits_on` — a task that waits for the signal waits on for as long as nobody gives it.
* `tasks_end_iff_bound` — when a run is over its tasks have ended if the address could be taken, and
  only then. Otherwise all of them go on, and nothing in the run gives them the signal.
* `refused_address_leaves_tasks` — a gateway whose address is not one of the host leaves two tasks.

Who ends does so by taking the signal. It is enough to know whose names are there, as what becomes of
the names does not depend on whether the signal waits for anyone.
-/
import HttpGateway.Proofs.Lifecycle.Signal

namespace HttpGateway.Lifecycle

namespace Shutdown

/-- The names of those who have subscribed. -/
def names (s : Shutdown) : List String := s.subscribers.map (·.id)

variable {s s' : Shutdown} {id : String} {t : Task} {tasks : List Task} {steps : List Step}

/-! ### What becomes of the names -/

/-- Names that came to others, and went again. -/
theorem filter_append_free {others added : List String} (h : ∀ id ∈ added, id ∉ others) :
    (others ++ added).filter (· ∉ added) = others := by
  have hothers : others.filter (· ∉ added) = others :=
    List.filter_eq_self.mpr fun id hid => decide_eq_true fun hadded => h id hadded hid
  have hadded : added.filter (· ∉ added) = [] :=
    List.filter_eq_nil_iff.mpr fun id hid => by simp [hid]
  rw [List.filter_append, hothers, hadded, List.append_nil]

theorem length_names (s : Shutdown) : s.names.length = s.receiverCount := List.length_map _

theorem find?_eq_none_iff : s.find? id = none ↔ id ∉ s.names := by
  simp [find?, names]

theorem names_unsubscribe (s : Shutdown) (id : String) :
    (s.unsubscribe id).2.names = s.names.filter (· ≠ id) := by
  simp [unsubscribe, names, List.filter_map, Function.comp_def]

/-- Someone whose name is free comes behind all others. -/
theorem names_subscribe (h : id ∉ s.names) : (s.subscribe id).names = s.names ++ [id] := by
  have hothers : (s.unsubscribe id).2.names = s.names := by
    rw [names_unsubscribe, List.filter_eq_self]
    exact fun other hother => decide_eq_true fun heq => h (heq ▸ hother)
  rw [← hothers]
  simp [subscribe, names]

@[simp] theorem names_trigger (s : Shutdown) : s.trigger.names = s.names := by
  unfold trigger
  split
  · rfl
  · simp [names]

@[simp] theorem names_receive (s : Shutdown) (id : String) : (s.receive id).2.names = s.names := by
  unfold receive
  split
  · rfl
  split
  · simp only [names, List.map_map]
    refine List.map_congr_left fun r _ => ?_
    simp only [Function.comp_apply]
    split <;> rfl
  · rfl

/-- A task that ends is the only one to go. -/
theorem names_dismiss (h : s.dismiss? t = some s') : s'.names = s.names.filter (· ≠ t.id) := by
  unfold dismiss? at h
  split at h
  · next received hreceive =>
    obtain rfl := Option.some.inj h
    rw [names_unsubscribe, ← names_receive s t.id, hreceive]
  · cases h

theorem names_dismiss_all (h : tasks.foldlM dismiss? s = some s') :
    s'.names = s.names.filter (· ∉ tasks.map Task.id) := by
  induction tasks generalizing s with
  | nil =>
    obtain rfl := Option.some.inj h
    simp
  | cons t rest ih =>
    rw [List.foldlM_cons] at h
    obtain ⟨first, hfirst, hrest⟩ := Option.bind_eq_some_iff.mp h
    rw [ih hrest, names_dismiss hfirst, List.filter_filter]
    refine List.filter_congr fun id _ => ?_
    simp [Bool.and_comm]

/-- So do tasks, one after another. -/
theorem names_enroll (hdistinct : (tasks.map Task.id).Nodup) (h : ∀ t ∈ tasks, t.id ∉ s.names) :
    (s.enroll tasks).names = s.names ++ tasks.map Task.id := by
  induction tasks generalizing s with
  | nil => simp [enroll]
  | cons t rest ih =>
    obtain ⟨hnew, hdistinct⟩ := List.nodup_cons.mp hdistinct
    obtain ⟨hfirst, hrest⟩ := List.forall_mem_cons.mp h
    have hstart := names_subscribe hfirst
    have hfree : ∀ t' ∈ rest, t'.id ∉ (s.subscribe t.id).names := by
      intro t' ht' hmem
      rw [hstart, List.mem_append, List.mem_singleton] at hmem
      rcases hmem with hmem | heq
      · exact hrest t' ht' hmem
      · exact hnew (heq ▸ List.mem_map_of_mem ht')
    have hall := ih hdistinct hfree
    rw [hstart, List.append_assoc] at hall
    exact hall

/-- Whatever else happens, whoever waits for the signal waits on until someone gives it. -/
theorem waits_on (hkeeps : ∀ e ∈ steps, e.Keeps id) (hnever : .trigger ∉ steps)
    (hfind : s.find? id = some ⟨id, false⟩) :
    (steps.foldl after s).find? id = some ⟨id, false⟩ := by
  induction steps generalizing s with
  | nil => exact hfind
  | cons e rest ih =>
    obtain ⟨hkeep, hothers⟩ := List.forall_mem_cons.mp hkeeps
    rw [List.mem_cons, not_or] at hnever
    obtain ⟨hgives, hnever⟩ := hnever
    refine ih hothers hnever ?_
    by_cases hasks : e = .receive id
    · subst hasks
      exact (receive_of_find hfind).2
    · exact (find?_after hkeep hasks (Ne.symm hgives)).1.trans hfind

end Shutdown

open Shutdown

/-- What a run comes to if its server ends in some way. -/
def ServingEnd.result : ServingEnd → Except StartupError Unit
  | stopped => .ok ()
  | failed reason => .error (.server reason)

/-- The server comes and goes. -/
theorem names_serve? {ending : ServingEnd} {s s' : Shutdown} {result : Except StartupError Unit}
    (hserver : Task.server.id ∉ s.names) (h : serve? ending s = some (result, s')) :
    s'.names = s.names ∧ result = ending.result := by
  have hgone : (s.subscribe Task.server.id).names.filter (· ≠ Task.server.id) = s.names := by
    rw [names_subscribe hserver]
    refine (List.filter_congr fun id _ => ?_).trans
      (@filter_append_free s.names [Task.server.id] (by simpa using hserver))
    simp
  cases ending with
  | stopped =>
    obtain ⟨s'', hdismiss, heq⟩ := Option.map_eq_some_iff.mp h
    obtain ⟨rfl, rfl⟩ := Prod.mk.inj heq
    refine ⟨?_, rfl⟩
    rw [names_dismiss hdismiss, names_trigger, hgone]
  | failed reason =>
    obtain ⟨rfl, rfl⟩ := Prod.mk.inj (Option.some.inj h)
    exact ⟨(names_unsubscribe _ _).trans hgone, rfl⟩

section

variable {s : Settings} {g : Gateway} {jitter : Nat → Nat}
  {bindFailure? : Net.SocketAddress → Option String} {ending : ServingEnd}
  {shutdown left : Shutdown} {result : Except StartupError Unit}

/-- A run that took its address ends as its server did, and leaves those who were there before. -/
theorem names_run_bound (hbuilt : build s .builtin jitter = .ok g)
    (hbind : bindError? s bindFailure? = none) (hfree : ∀ t : Task, t.id ∉ shutdown.names)
    (h : run s jitter bindFailure? ending shutdown = some (result, left)) :
    left.names = shutdown.names ∧ result = ending.result := by
  obtain ⟨hdistinct, hserver⟩ := backgroundTasks_distinct s
  have henrolled := names_enroll hdistinct fun t _ => hfree t
  unfold run at h
  simp only [hbuilt, hbind] at h
  obtain ⟨⟨served, s'⟩, hserve, hrest⟩ := Option.bind_eq_some_iff.mp h
  obtain ⟨s'', hdismiss, heq⟩ := Option.map_eq_some_iff.mp hrest
  obtain ⟨rfl, rfl⟩ := Prod.mk.inj heq
  have hnew : Task.server.id ∉ (shutdown.enroll (backgroundTasks s)).names := by
    rw [henrolled, List.mem_append]
    exact not_or.mpr ⟨hfree .server, hserver⟩
  obtain ⟨hnames, hresult⟩ := names_serve? hnew hserve
  refine ⟨?_, hresult⟩
  rw [names_dismiss_all hdismiss, names_trigger, hnames, henrolled]
  exact filter_append_free fun id hid => by
    obtain ⟨t, -, rfl⟩ := List.mem_map.mp hid
    exact hfree t

/-- A run that did not take its address has ended at once, and leaves its tasks as they began. -/
theorem run_refused {e : StartupError} (hbuilt : build s .builtin jitter = .ok g)
    (hbind : bindError? s bindFailure? = some e) (ending : ServingEnd) (shutdown : Shutdown) :
    run s jitter bindFailure? ending shutdown
      = some (.error e, shutdown.enroll (backgroundTasks s)) := by
  unfold run
  simp only [hbuilt, hbind]

/-- **The tasks of a run end with it if it took its address, and only then.** Nobody may have
subscribed under the names of the tasks before. A run of accepted settings comes to its end if its
address cannot be taken, or else if the signal was not given before. If it took its address, then
whether the server stopped or failed just those have subscribed who had before, and none of its
tasks. If it did not, all of its tasks have subscribed in addition to those, and each of them goes on
through whatever happens later until somebody else gives the signal. -/
theorem tasks_end_iff_bound (hbuilt : build s .builtin jitter = .ok g)
    (bindFailure? : Net.SocketAddress → Option String) (ending : ServingEnd)
    (hfree : ∀ t : Task, shutdown.find? t.id = none) :
    ((run s jitter bindFailure? ending shutdown).isSome = true ↔
      bindError? s bindFailure? ≠ none ∨ shutdown.triggered = false) ∧
    ∀ result left, run s jitter bindFailure? ending shutdown = some (result, left) →
      (left.receiverCount = shutdown.receiverCount ∧
          (∀ t ∈ backgroundTasks s, left.find? t.id = none) ↔
        bindError? s bindFailure? = none) ∧
      (bindError? s bindFailure? = none →
        left.names = shutdown.names ∧ result = ending.result) ∧
      ∀ e, bindError? s bindFailure? = some e →
        result = .error e ∧
        left.names = shutdown.names ++ (backgroundTasks s).map Task.id ∧
        ∀ t ∈ backgroundTasks s, ∀ steps : List Step, (∀ e ∈ steps, e.Keeps t.id) →
          .trigger ∉ steps → (steps.foldl after left).dismiss? t = none := by
  have hfree' : ∀ t : Task, t.id ∉ shutdown.names := fun t => find?_eq_none_iff.mp (hfree t)
  obtain ⟨hdistinct, -⟩ := backgroundTasks_distinct s
  cases hbind : bindError? s bindFailure? with
  | none =>
    refine ⟨by simpa using run_isSome_iff hbuilt hbind ending shutdown, fun result left h => ?_⟩
    obtain ⟨hnames, hresult⟩ := names_run_bound hbuilt hbind hfree' h
    refine ⟨iff_of_true ⟨?_, fun t _ => ?_⟩ rfl, fun _ => ⟨hnames, hresult⟩, fun e he => ?_⟩
    · rw [← length_names, hnames, length_names]
    · exact find?_eq_none_iff.mpr (hnames ▸ hfree' t)
    · cases he
  | some refused =>
    have hrun := run_refused hbuilt hbind ending shutdown
    refine ⟨by simp [hrun], fun result left h => ?_⟩
    obtain ⟨rfl, rfl⟩ := Prod.mk.inj (Option.some.inj (hrun.symm.trans h))
    have hwaiting := (find?_enroll hdistinct shutdown).2
    refine ⟨iff_of_false ?_ (by simp), fun hbound => (by cases hbound), fun e he => ?_⟩
    · rintro ⟨-, hgone⟩
      obtain ⟨t, rest, htasks⟩ := backgroundTasks_eq_cons s
      have ht : t ∈ backgroundTasks s := htasks ▸ List.mem_cons_self
      exact absurd ((hwaiting t ht).symm.trans (hgone t ht)) (by simp)
    · obtain rfl := Option.some.inj he
      refine ⟨rfl, names_enroll hdistinct fun t _ => hfree' t, fun t ht steps hkeeps hnever => ?_⟩
      exact dismiss?_of_empty (waits_on hkeeps hnever (hwaiting t ht))

end

/-- A server that fails, in a process in which somebody else listens for the signal as well. Both
tasks have ended, and the other one is still there. -/
theorem tasks_end_iff_bound_failed :
    let s : Settings := { healthCheck := { enabled := true } }
    let shutdown := fresh.subscribe "console"
    (∃ g, build s .builtin (fun _ => 0) = .ok g) ∧ (∀ t : Task, shutdown.find? t.id = none) ∧
      backgroundTasks s = [.monitor, .sweeper] ∧
      ∃ left, run s (fun _ => 0) (fun _ => none) (.failed "closed") shutdown
          = some (.error (.server "closed"), left) ∧
        left.receiverCount = 1 ∧ left.names = ["console"] := by
  intro s shutdown
  have hproblems : s.problems Filter.Registry.builtin.names = [] := by
    rw [names_builtin]
    decide +kernel
  obtain ⟨g, hbuilt, -⟩ := build_filtered hproblems fun _ => 0
  have hfree : ∀ t : Task, shutdown.find? t.id = none := by
    intro t
    cases t <;> decide
  have hbind : bindError? s (fun _ => none) = none := by decide +kernel
  obtain ⟨hends, hleft⟩ := tasks_end_iff_bound hbuilt (fun _ => none) (.failed "closed") hfree
  obtain ⟨⟨result, left⟩, hrun⟩ := Option.isSome_iff_exists.mp (hends.mpr (.inr rfl))
  obtain ⟨hcount, hbound, -⟩ := hleft result left hrun
  obtain ⟨hnames, rfl⟩ := hbound hbind
  exact ⟨⟨g, hbuilt⟩, hfree, rfl, left, hrun, (hcount.mpr hbind).1, hnames⟩

/-- A port that the process may not take. The run ends with that, and the monitor and the sweeper,
which were not there before, still wait for the signal. -/
theorem refused_address_leaves_tasks :
    let s : Settings :=
      { listener := { bindAddress := "203.0.113.7:80" }, healthCheck := { enabled := true } }
    let refuse : Net.SocketAddress → Option String := fun a =>
      if a.port < 1024 then some "Permission denied (os error 13)" else none
    (∃ left, run s (fun _ => 0) refuse .stopped fresh
        = some (.error (.bind "203.0.113.7:80" "Permission denied (os error 13)"), left) ∧
      left.names = ["health monitor", "pool sweeper"] ∧ left.triggered = false) ∧
    ¬ ∀ (s : Settings) (g : Gateway) (jitter : Nat → Nat)
        (bindFailure? : Net.SocketAddress → Option String) (ending : ServingEnd)
        (shutdown left : Shutdown) (result : Except StartupError Unit),
      build s .builtin jitter = .ok g →
        run s jitter bindFailure? ending shutdown = some (result, left) →
          left.receiverCount = shutdown.receiverCount := by
  intro s refuse
  have hproblems : s.problems Filter.Registry.builtin.names = [] := by
    rw [names_builtin]
    decide +kernel
  obtain ⟨g, hbuilt, -⟩ := build_filtered hproblems fun _ => 0
  have hbind : bindError? s refuse
      = some (.bind "203.0.113.7:80" "Permission denied (os error 13)") := by
    decide +kernel
  have hrun := run_refused hbuilt hbind .stopped fresh
  refine ⟨⟨_, hrun, by decide, by decide⟩, fun hall => ?_⟩
  exact absurd (hall s g _ refuse .stopped fresh _ _ hbuilt hrun) (by decide)

end HttpGateway.Lifecycle
