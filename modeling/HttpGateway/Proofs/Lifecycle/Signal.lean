/-
Who hears the signal to stop.

* **Step** — what is done with the signal, and by those who subscribe to it, in any order.
* **heard** — what a subscriber finds whenever it asks.
* `count_heard_untold`, `count_heard_told`, `count_heard_late` — a subscriber to whom the signal was
  not yet given, one for whom it waits, and one for whom nothing will come any more.
* `heard_once_iff_in_time` — of those who ask once the signal was given, exactly those hear it who
  subscribed before, and they hear it once. So a gateway that is started after the signal was given
  never stops.
* `late_subscriber_hears_nothing` — the shortest course in which somebody comes too late.

Of all who have subscribed only the one in question matters. What is known of it is whether the
signal was given and whether it waits for this one, and each step changes that in one way.
-/
import HttpGateway.Lifecycle.Run
import HttpGateway.Proofs.Lifecycle.Tokens

namespace HttpGateway.Lifecycle

namespace Shutdown

/-- What is done with the signal, or by someone who subscribes to it. -/
inductive Step
  | subscribe (id : String)
  | unsubscribe (id : String)
  | trigger
  | receive (id : String)
deriving DecidableEq, Repr

/-- What a step leads to. -/
def after (s : Shutdown) : Step → Shutdown
  | .subscribe id => s.subscribe id
  | .unsubscribe id => (s.unsubscribe id).2
  | .trigger => s.trigger
  | .receive id => (s.receive id).2

/-- What a subscriber finds in a step, if it is the one in which it asks. -/
def found? (id : String) (s : Shutdown) : Step → Option Reception
  | .receive asking => if asking = id then (s.receive id).1 else none
  | _ => none

/-- All that a subscriber finds, one thing whenever it asks. -/
def heard (id : String) (s : Shutdown) : List Step → List Reception
  | [] => []
  | e :: rest => (s.found? id e).toList ++ heard id (s.after e) rest

/-- Whether a step leaves the subscription of someone as it is. -/
def Step.Keeps (id : String) : Step → Prop
  | .subscribe other | .unsubscribe other => other ≠ id
  | .trigger | .receive _ => True

variable {s : Shutdown} {id other : String} {e : Step} {steps : List Step} {pending : Bool}

/-! ### What is known of one subscriber -/

theorem find?_unsubscribe_other (s : Shutdown) (h : other ≠ id) :
    (s.unsubscribe other).2.find? id = s.find? id := by
  unfold unsubscribe find?
  rw [List.find?_filter]
  congr 1
  funext r
  by_cases hr : r.id = id <;> simp [hr, h.symm]

theorem find?_subscribe_other (s : Shutdown) (h : other ≠ id) :
    (s.subscribe other).find? id = s.find? id := by
  rw [← find?_unsubscribe_other s h]
  unfold subscribe find?
  simp [List.find?_append, h]

@[simp] theorem find?_subscribe_self (s : Shutdown) (id : String) :
    (s.subscribe id).find? id = some ⟨id, false⟩ := by
  have hnone : (s.unsubscribe id).2.find? id = none := by
    unfold unsubscribe find?
    simp
  unfold subscribe find?
  rw [List.find?_append]
  unfold find? at hnone
  simp [hnone]

/-- What is noted of subscribers does not change who they are. -/
theorem find?_note (triggered : Bool) (note : Subscriber → Subscriber)
    (hnote : ∀ r, (note r).id = r.id) (s : Shutdown) (id : String) :
    find? ⟨triggered, s.subscribers.map note⟩ id = (s.find? id).map note := by
  unfold find?
  rw [List.find?_map]
  congr 2
  funext r
  exact congrArg (fun i => decide (i = id)) (hnote r)

/-- The first signal is for all who have subscribed by then. -/
theorem find?_trigger (h : s.triggered = false) (id : String) :
    s.trigger.find? id = (s.find? id).map fun r => { r with pending := true } := by
  unfold trigger
  rw [if_neg (by simp [h])]
  exact find?_note true (fun r => { r with pending := true }) (fun _ => rfl) s id

theorem trigger_of_triggered (h : s.triggered = true) : s.trigger = s := if_pos h

@[simp] theorem triggered_trigger (s : Shutdown) : s.trigger.triggered = true := by
  unfold trigger
  split
  · assumption
  · rfl

@[simp] theorem triggered_receive (s : Shutdown) (id : String) :
    (s.receive id).2.triggered = s.triggered := by
  unfold receive
  split
  · rfl
  · split <;> rfl

/-- What someone does who takes the signal. -/
theorem find?_take (s : Shutdown) (taker id : String) :
    find? { s with subscribers := s.subscribers.map fun r =>
      if r.id = taker then { r with pending := false } else r } id
      = (s.find? id).map fun r => if r.id = taker then { r with pending := false } else r :=
  find?_note s.triggered _ (fun r => by split <;> rfl) s id

/-- Whoever asks finds the signal if it waits, and it waits no more. -/
theorem receive_of_find (h : s.find? id = some ⟨id, pending⟩) :
    (s.receive id).1 = some (if pending then .signal else .empty) ∧
      (s.receive id).2.find? id = some ⟨id, false⟩ := by
  unfold receive
  rw [h]
  cases pending with
  | false => exact ⟨rfl, h⟩
  | true =>
    refine ⟨rfl, ?_⟩
    simp only [if_true, find?_take, h, Option.map_some]

theorem find?_receive_other (s : Shutdown) (h : other ≠ id) :
    (s.receive other).2.find? id = s.find? id := by
  unfold receive
  split
  · rfl
  split
  · rw [find?_take]
    cases hfind : s.find? id with
    | none => rfl
    | some r =>
      have hid : r.id = id := by simpa using List.find?_some hfind
      rw [Option.map_some, if_neg fun heq => h (heq.symm.trans hid)]
  · rfl

/-- A step that is not about someone changes what is known of it only if it gives the signal. -/
theorem find?_after (hkeeps : e.Keeps id) (hasks : e ≠ .receive id) (hgives : e ≠ .trigger) :
    (s.after e).find? id = s.find? id ∧ (s.after e).triggered = s.triggered := by
  cases e with
  | subscribe other => exact ⟨find?_subscribe_other s hkeeps, rfl⟩
  | unsubscribe other => exact ⟨find?_unsubscribe_other s hkeeps, rfl⟩
  | trigger => exact absurd rfl hgives
  | receive other =>
    have hother : other ≠ id := fun heq => hasks (congrArg Step.receive heq)
    exact ⟨find?_receive_other s hother, triggered_receive s other⟩

theorem found?_of_ne (hasks : e ≠ .receive id) : s.found? id e = none := by
  cases e with
  | receive other => exact if_neg fun heq => hasks (congrArg Step.receive heq)
  | _ => rfl

/-! ### What a subscriber finds -/

/-- To whom the signal was not given when it was given, to that one it never comes. -/
theorem count_heard_late (hkeeps : ∀ e ∈ steps, e.Keeps id) (htriggered : s.triggered = true)
    (hfind : s.find? id = some ⟨id, false⟩) : (heard id s steps).count .signal = 0 := by
  induction steps generalizing s with
  | nil => rfl
  | cons e rest ih =>
    obtain ⟨hkeep, hothers⟩ := List.forall_mem_cons.mp hkeeps
    unfold heard
    by_cases hasks : e = .receive id
    · subst hasks
      obtain ⟨hanswer, hafter⟩ := receive_of_find hfind
      have hfound : s.found? id (.receive id) = some .empty := (if_pos rfl).trans hanswer
      rw [hfound]
      exact ih hothers ((triggered_receive s id).trans htriggered) hafter
    · rw [found?_of_ne hasks]
      by_cases hgives : e = .trigger
      · subst hgives
        have hsame := trigger_of_triggered htriggered
        exact ih hothers (triggered_trigger s) ((congrArg (find? · id) hsame).trans hfind)
      · obtain ⟨hfind', htriggered'⟩ := find?_after hkeep hasks hgives (s := s)
        exact ih hothers (htriggered'.trans htriggered) (hfind'.trans hfind)

/-- For whom the signal waits, that one hears it as soon as it asks, and not again. -/
theorem count_heard_told (hkeeps : ∀ e ∈ steps, e.Keeps id) (htriggered : s.triggered = true)
    (hfind : s.find? id = some ⟨id, true⟩) :
    (heard id s steps).count .signal = if .receive id ∈ steps then 1 else 0 := by
  induction steps generalizing s with
  | nil => rfl
  | cons e rest ih =>
    obtain ⟨hkeep, hothers⟩ := List.forall_mem_cons.mp hkeeps
    unfold heard
    by_cases hasks : e = .receive id
    · subst hasks
      obtain ⟨hanswer, hafter⟩ := receive_of_find hfind
      have hfound : s.found? id (.receive id) = some .signal := (if_pos rfl).trans hanswer
      -- From here on nothing waits for it, and no signal is sent again.
      have hlate := count_heard_late hothers ((triggered_receive s id).trans htriggered) hafter
      rw [hfound, if_pos List.mem_cons_self, List.count_append]
      exact congrArg (1 + ·) hlate
    · have hmem : Step.receive id ∈ e :: rest ↔ Step.receive id ∈ rest := by
        simp [Ne.symm hasks]
      simp only [found?_of_ne hasks, hmem]
      by_cases hgives : e = .trigger
      · subst hgives
        have hsame := trigger_of_triggered htriggered
        exact ih hothers (triggered_trigger s) ((congrArg (find? · id) hsame).trans hfind)
      · obtain ⟨hfind', htriggered'⟩ := find?_after hkeep hasks hgives (s := s)
        exact ih hothers (htriggered'.trans htriggered) (hfind'.trans hfind)

open Classical in
/-- To whom the signal is still to be given, that one hears it once if it asks after that. -/
theorem count_heard_untold (hkeeps : ∀ e ∈ steps, e.Keeps id) (htriggered : s.triggered = false)
    (hfind : s.find? id = some ⟨id, false⟩) :
    (heard id s steps).count .signal
      = if [.trigger, .receive id].Sublist steps then 1 else 0 := by
  induction steps generalizing s with
  | nil => simp [heard]
  | cons e rest ih =>
    obtain ⟨hkeep, hothers⟩ := List.forall_mem_cons.mp hkeeps
    unfold heard
    by_cases hgives : e = .trigger
    · subst hgives
      have hwaits : s.trigger.find? id = some ⟨id, true⟩ := by
        rw [find?_trigger htriggered, hfind]
        rfl
      have hasked : [.trigger, .receive id].Sublist (.trigger :: rest) ↔ .receive id ∈ rest := by
        rw [List.cons_sublist_cons, List.singleton_sublist]
      simp only [hasked]
      exact count_heard_told hothers (triggered_trigger s) hwaits
    · -- Whatever comes before the signal does not count as asking for it.
      have hasked : [.trigger, .receive id].Sublist (e :: rest) ↔
          [.trigger, .receive id].Sublist rest := by
        rw [List.sublist_cons_iff]
        simp [Ne.symm hgives]
      simp only [hasked]
      by_cases hasks : e = .receive id
      · subst hasks
        obtain ⟨hanswer, hafter⟩ := receive_of_find hfind
        have hfound : s.found? id (.receive id) = some .empty := (if_pos rfl).trans hanswer
        rw [hfound]
        exact ih hothers ((triggered_receive s id).trans htriggered) hafter
      · obtain ⟨hfind', htriggered'⟩ := find?_after hkeep hasks hgives (s := s)
        rw [found?_of_ne hasks]
        exact ih hothers (htriggered'.trans htriggered) (hfind'.trans hfind)

/-- The signal was given if one of the steps gave it. -/
theorem triggered_foldl (s : Shutdown) (steps : List Step) :
    (steps.foldl after s).triggered = true ↔ s.triggered = true ∨ .trigger ∈ steps := by
  induction steps generalizing s with
  | nil => simp
  | cons e rest ih =>
    rw [List.foldl_cons, ih, List.mem_cons, ← or_assoc]
    refine or_congr_left ?_
    cases e with
    | subscribe other => simp [after, subscribe, unsubscribe]
    | unsubscribe other => simp [after, unsubscribe]
    | trigger => simp [after]
    | receive other => simp [after]

/-! ### Tasks of a gateway -/

variable {t : Task} {tasks : List Task}

/-- A task for which the signal does not wait goes on. -/
theorem dismiss?_of_empty (h : s.find? t.id = some ⟨t.id, false⟩) : s.dismiss? t = none := by
  have hanswer := (receive_of_find h).1
  unfold dismiss?
  split
  · next hreceive =>
    rw [hreceive] at hanswer
    simp at hanswer
  · rfl

/-- A task for which the signal waits ends, and leaves the others alone. -/
theorem dismiss?_of_signal (h : s.find? t.id = some ⟨t.id, true⟩) :
    ∃ s', s.dismiss? t = some s' ∧ s'.triggered = s.triggered ∧
      ∀ id, t.id ≠ id → s'.find? id = s.find? id := by
  have hanswer := (receive_of_find h).1
  refine ⟨((s.receive t.id).2.unsubscribe t.id).2, ?_, triggered_receive s t.id, fun id hid => ?_⟩
  · unfold dismiss?
    rw [← Prod.eta (s.receive t.id), hanswer]
    rfl
  · exact (find?_unsubscribe_other _ hid).trans (find?_receive_other s hid)

/-- Tasks for all of which the signal waits end one after another. -/
theorem dismiss_all (hdistinct : (tasks.map Task.id).Nodup)
    (h : ∀ t ∈ tasks, s.find? t.id = some ⟨t.id, true⟩) :
    ∃ s', tasks.foldlM dismiss? s = some s' := by
  induction tasks generalizing s with
  | nil => exact ⟨s, rfl⟩
  | cons t rest ih =>
    obtain ⟨hfirst, hrest⟩ := List.forall_mem_cons.mp h
    obtain ⟨hnew, hdistinct⟩ := List.nodup_cons.mp hdistinct
    obtain ⟨s', hdismiss, -, hothers⟩ := dismiss?_of_signal hfirst
    have hne : ∀ t' ∈ rest, t.id ≠ t'.id := fun t' ht' heq =>
      hnew (heq ▸ List.mem_map_of_mem ht')
    obtain ⟨s'', hs''⟩ := ih hdistinct fun t' ht' =>
      (hothers t'.id (hne t' ht')).trans (hrest t' ht')
    exact ⟨s'', by rw [List.foldlM_cons, hdismiss]; exact hs''⟩

/-- Tasks that begin have subscribed, and no signal waits for them yet. -/
theorem find?_enroll (hdistinct : (tasks.map Task.id).Nodup) (s : Shutdown) :
    (s.enroll tasks).triggered = s.triggered ∧
      ∀ t ∈ tasks, (s.enroll tasks).find? t.id = some ⟨t.id, false⟩ := by
  have hkept : ∀ (rest : List Task) (s : Shutdown) (id : String), id ∉ rest.map Task.id →
      (s.enroll rest).find? id = s.find? id := by
    intro rest
    induction rest with
    | nil => exact fun _ _ _ => rfl
    | cons t rest ih =>
      intro s id hid
      rw [List.map_cons, List.mem_cons, not_or] at hid
      exact (ih (s.subscribe t.id) id hid.2).trans (find?_subscribe_other s (Ne.symm hid.1))
  induction tasks generalizing s with
  | nil => exact ⟨rfl, by simp⟩
  | cons t rest ih =>
    obtain ⟨hnew, hdistinct⟩ := List.nodup_cons.mp hdistinct
    obtain ⟨htriggered, hrest⟩ := ih hdistinct (s.subscribe t.id)
    refine ⟨htriggered, List.forall_mem_cons.mpr ⟨?_, hrest⟩⟩
    exact (hkept rest (s.subscribe t.id) t.id hnew).trans (find?_subscribe_self s t.id)

end Shutdown

open Shutdown

/-- The tasks of a gateway are told apart, and none of them is the server. -/
theorem backgroundTasks_distinct (s : Settings) :
    ((backgroundTasks s).map Task.id).Nodup ∧ Task.server.id ∉ (backgroundTasks s).map Task.id := by
  unfold backgroundTasks
  split <;> exact ⟨by decide, by decide⟩

theorem backgroundTasks_eq_cons (s : Settings) : ∃ t rest, backgroundTasks s = t :: rest := by
  unfold backgroundTasks
  split <;> exact ⟨_, _, rfl⟩

section

variable {tasks : List Task} {shutdown : Shutdown}

/-- Once the signal was given, a server that waits for it does not end, and one that fails leaves
tasks behind for which it does not wait. -/
theorem serve?_late (hserver : Task.server.id ∉ tasks.map Task.id)
    (htriggered : shutdown.triggered = true)
    (hfind : ∀ t ∈ tasks, shutdown.find? t.id = some ⟨t.id, false⟩) (ending : ServingEnd) :
    serve? ending shutdown = none ∨ ∃ result after, serve? ending shutdown = some (result, after) ∧
      after.triggered = true ∧ ∀ t ∈ tasks, after.find? t.id = some ⟨t.id, false⟩ := by
  have hsubscribed : (shutdown.subscribe Task.server.id).triggered = true := htriggered
  cases ending with
  | stopped =>
    have hempty : (shutdown.subscribe Task.server.id).trigger.dismiss? .server = none := by
      rw [trigger_of_triggered hsubscribed]
      exact dismiss?_of_empty (find?_subscribe_self shutdown Task.server.id)
    exact .inl (congrArg (Option.map _) hempty)
  | failed reason =>
    refine .inr ⟨_, _, rfl, htriggered, fun t ht => ?_⟩
    have hne : Task.server.id ≠ t.id := fun heq => hserver (heq ▸ List.mem_map_of_mem ht)
    exact (find?_unsubscribe_other _ hne).trans
      ((find?_subscribe_other shutdown hne).trans (hfind t ht))

/-- A server that began before the signal ends, and after it the signal waits for all tasks. -/
theorem serve?_timely (hserver : Task.server.id ∉ tasks.map Task.id)
    (htriggered : shutdown.triggered = false)
    (hfind : ∀ t ∈ tasks, shutdown.find? t.id = some ⟨t.id, false⟩) (ending : ServingEnd) :
    ∃ result after, serve? ending shutdown = some (result, after) ∧
      ∀ t ∈ tasks, after.trigger.find? t.id = some ⟨t.id, true⟩ := by
  have hne : ∀ t ∈ tasks, Task.server.id ≠ t.id := fun t ht heq =>
    hserver (heq ▸ List.mem_map_of_mem ht)
  have hsubscribed : (shutdown.subscribe Task.server.id).triggered = false := htriggered
  have hwaits : ∀ t ∈ tasks,
      (shutdown.subscribe Task.server.id).find? t.id = some ⟨t.id, false⟩ := fun t ht =>
    (find?_subscribe_other shutdown (hne t ht)).trans (hfind t ht)
  -- A server stops because the signal was given, to the tasks as well; one that fails gives it by
  -- its end.
  cases ending with
  | stopped =>
    have hsignal : (shutdown.subscribe Task.server.id).trigger.find? Task.server.id
        = some ⟨Task.server.id, true⟩ := by
      rw [find?_trigger hsubscribed, find?_subscribe_self]
      rfl
    obtain ⟨after, hdismiss, hgiven, hothers⟩ := dismiss?_of_signal hsignal
    refine ⟨_, after, congrArg (Option.map _) hdismiss, fun t ht => ?_⟩
    rw [trigger_of_triggered (hgiven.trans (triggered_trigger _)), hothers t.id (hne t ht),
      find?_trigger hsubscribed, hwaits t ht]
    rfl
  | failed reason =>
    refine ⟨_, _, rfl, fun t ht => ?_⟩
    have hleft : ((shutdown.subscribe Task.server.id).unsubscribe Task.server.id).2.triggered
        = false := htriggered
    rw [find?_trigger hleft, find?_unsubscribe_other _ (hne t ht), hwaits t ht]
    rfl

end

/-- A run comes to its end if the signal was not yet given when it began. Otherwise it never does,
however the server would end. -/
theorem run_isSome_iff {s : Settings} {g : Gateway} {jitter : Nat → Nat}
    {bindFailure? : Net.SocketAddress → Option String} (hbuilt : build s .builtin jitter = .ok g)
    (hbind : bindError? s bindFailure? = none) (ending : ServingEnd) (shutdown : Shutdown) :
    (run s jitter bindFailure? ending shutdown).isSome = true ↔ shutdown.triggered = false := by
  obtain ⟨hdistinct, hserver⟩ := backgroundTasks_distinct s
  obtain ⟨htriggered, hfind⟩ := find?_enroll hdistinct shutdown
  simp only [run, hbuilt, hbind]
  cases hgiven : shutdown.triggered with
  | false =>
    obtain ⟨result, after, hserve, hwaits⟩ :=
      serve?_timely hserver (htriggered.trans hgiven) hfind ending
    obtain ⟨last, hlast⟩ := dismiss_all hdistinct hwaits
    simp [hserve, hlast]
  | true =>
    rcases serve?_late hserver (htriggered.trans hgiven) hfind ending with
      hserve | ⟨result, after, hserve, hgiven', hwaits⟩
    · simp [hserve]
    · -- The first of the tasks goes on for ever.
      obtain ⟨t, rest, htasks⟩ := backgroundTasks_eq_cons s
      have hfirst : after.dismiss? t = none :=
        dismiss?_of_empty (hwaits t (htasks ▸ List.mem_cons_self))
      have hnone : (backgroundTasks s).foldlM dismiss? after = none := by
        rw [htasks, List.foldlM_cons, hfirst]
        rfl
      simp [hserve, trigger_of_triggered hgiven', hnone]

/-- **The signal is heard once by those who subscribe in time.** Somebody subscribes, keeps the
subscription through all later steps, and asks once the signal was given, be that before or after the
subscription. Then the signal is heard exactly once if it was not given before, and never otherwise;
later signals add nothing, and nothing is heard without asking. In particular a gateway from accepted
settings with a free address comes to its end exactly if the signal is given after it has begun. -/
theorem heard_once_iff_in_time {earlier later : List Step} {id : String}
    (hkeeps : ∀ e ∈ later, e.Keeps id) :
    let found := heard id ((earlier ++ [Step.subscribe id]).foldl after fresh) later
    (Step.trigger ∈ earlier ∧ Step.receive id ∈ later ∨
        [Step.trigger, Step.receive id].Sublist later →
      (found.count .signal = 1 ↔ Step.trigger ∉ earlier)) ∧
    found.count .signal ≤ 1 ∧
    ∀ s g jitter bindFailure?, build s .builtin jitter = .ok g →
      bindError? s bindFailure? = none → ∀ ending,
        ((run s jitter bindFailure? ending (earlier.foldl after fresh)).isSome = true ↔
          Step.trigger ∉ earlier) := by
  intro found
  have hgiven : (earlier.foldl after fresh).triggered = true ↔ Step.trigger ∈ earlier := by
    rw [triggered_foldl]
    exact or_iff_right Bool.false_ne_true
  have hstart : (earlier ++ [Step.subscribe id]).foldl after fresh
      = (earlier.foldl after fresh).subscribe id := by
    rw [List.foldl_append]
    rfl
  have hfind : ((earlier ++ [Step.subscribe id]).foldl after fresh).find? id
      = some ⟨id, false⟩ := by
    rw [hstart, find?_subscribe_self]
  have hsame : ((earlier ++ [Step.subscribe id]).foldl after fresh).triggered
      = (earlier.foldl after fresh).triggered := by
    rw [hstart]
    rfl
  have hrun : ∀ s g jitter bindFailure?, build s .builtin jitter = .ok g →
      bindError? s bindFailure? = none → ∀ ending,
        ((run s jitter bindFailure? ending (earlier.foldl after fresh)).isSome = true ↔
          Step.trigger ∉ earlier) := fun s g jitter bindFailure? hbuilt hbind ending => by
    rw [run_isSome_iff hbuilt hbind, ← hgiven, Bool.not_eq_true]
  by_cases htrigger : Step.trigger ∈ earlier
  · -- The signal has passed, and is not given again.
    have hcount : found.count .signal = 0 :=
      count_heard_late hkeeps (hsame.trans (hgiven.mpr htrigger)) hfind
    refine ⟨fun _ => ?_, by omega, hrun⟩
    simp [hcount, htrigger]
  · -- The signal is still to come, and is there to be asked for once it has.
    have huntold := (Bool.not_eq_true _).mp fun h => htrigger (hgiven.mp h)
    have hcount := count_heard_untold hkeeps (hsame.trans huntold) hfind
    refine ⟨fun hasked => iff_of_true (hcount.trans (if_pos ?_)) htrigger, ?_, hrun⟩
    · exact hasked.resolve_left fun h => htrigger h.1
    · refine le_of_eq_of_le hcount ?_
      split <;> decide

/-- A server and a monitor that subscribe in time, and a sweeper that ends before the signal. The
monitor asks before and after the signal, and hears it once although it is given twice. -/
theorem heard_once_iff_in_time_monitor :
    let earlier : List Step := [.subscribe "server", .subscribe "sweeper", .receive "server"]
    let later : List Step :=
      [.receive "monitor", .unsubscribe "sweeper", .trigger, .receive "server", .receive "monitor",
        .trigger, .receive "monitor"]
    let found := heard "monitor" ((earlier ++ [Step.subscribe "monitor"]).foldl after fresh) later
    (∀ e ∈ later, e.Keeps "monitor") ∧ found = [.empty, .signal, .empty] ∧
      found.count .signal = 1 ∧ ∃ g, build {} .builtin (fun _ => 0) = .ok g ∧
        ((run {} (fun _ => 0) (fun _ => none) .stopped (earlier.foldl after fresh)).isSome = true ↔
          Step.trigger ∉ earlier) := by
  intro earlier later found
  have hkeeps : ∀ e ∈ later, e.Keeps "monitor" := by
    simp [later, Step.Keeps]
  obtain ⟨hheard, -, hrun⟩ := @heard_once_iff_in_time earlier later "monitor" hkeeps
  have hproblems : ({} : Settings).problems Filter.Registry.builtin.names = [] := by
    rw [names_builtin]
    decide +kernel
  obtain ⟨g, hbuilt, -⟩ := build_filtered hproblems fun _ => 0
  refine ⟨hkeeps, by decide, (hheard (.inr (by decide))).mpr (by decide), g, hbuilt, ?_⟩
  exact hrun {} g _ (fun _ => none) hbuilt (by decide +kernel) .stopped

/-- Nothing comes to a server that subscribes when the signal was given, also if it is given
again. -/
theorem late_subscriber_hears_nothing :
    let shutdown := [Step.trigger].foldl after fresh
    heard "server" (shutdown.subscribe "server") [.receive "server", .trigger, .receive "server"]
      = [.empty, .empty] ∧
      ¬ ∀ (earlier later : List Step) (id : String), (∀ e ∈ later, e.Keeps id) →
        Step.trigger ∈ earlier ∧ Step.receive id ∈ later →
          (heard id ((earlier ++ [Step.subscribe id]).foldl after fresh) later).count .signal = 1 := by
  refine ⟨by decide, fun hall => ?_⟩
  have hone := hall [.trigger] [.receive "server"] "server" (by simp [Step.Keeps]) (by decide)
  exact absurd hone (by decide)

end HttpGateway.Lifecycle
