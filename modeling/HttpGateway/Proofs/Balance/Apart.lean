/-
When routes take turns apart.

Turns are kept by a text: the id of a route, followed by the name of a group where the route tells
its groups apart. So two routes keep out of each other's way as long as no id of a route is that of
another one with the name of a group behind it.

* **Selection.part** — the group whose instances take turns for a request.
* `partition_key` — the key of these turns is `turnsKey`, a function of the id and that group.
* **Balancers.turnsAt** — what is remembered under a key. A selection reads what is remembered under
  its own key (`select_congr`), and changes nothing else (`select_other`).
* `picks_apart_iff` — the picks for one group of a route do not depend on what is selected for other
  routes, exactly if the ids have no such overlap.
-/
import HttpGateway.Proofs.Balance.Groups
import HttpGateway.Settings.Check

namespace HttpGateway.Balance

open Http Route Settings

/-! ### Keys -/

/-- What stands behind the id of a route in the key of one of its groups. -/
def groupName (g : Bool) : String := if g then ":gray" else ":base"

theorem length_groupName (g : Bool) : (groupName g).toList.length = 5 := by
  cases g <;> rfl

theorem groupName_inj {g g' : Bool} (h : groupName g = groupName g') : g = g' := by
  cases g <;> cases g' <;> simp_all [groupName]

/-- The key of the turns of a group of a route, or of all its healthy instances. -/
def turnsKey (id : String) : Option Bool → String
  | none => id
  | some g => id ++ groupName g

theorem turnsKey_toList (id : String) (g : Bool) :
    (turnsKey id (some g)).toList = id.toList ++ (groupName g).toList :=
  String.toList_append

theorem length_turnsKey (id : String) (g : Bool) :
    (turnsKey id (some g)).toList.length = id.toList.length + 5 := by
  rw [turnsKey_toList, List.length_append, length_groupName]

/-- The names of both groups are of one length, so neither is the end of a key of the other one. -/
theorem turnsKey_inj {id other : String} {g g' : Bool}
    (h : turnsKey id (some g) = turnsKey other (some g')) : id = other ∧ g = g' := by
  have hlist := congrArg String.toList h
  rw [turnsKey_toList, turnsKey_toList] at hlist
  have hlength : (groupName g).toList.length = (groupName g').toList.length := by
    rw [length_groupName, length_groupName]
  obtain ⟨hid, hname⟩ := List.append_inj' hlist hlength
  exact ⟨String.toList_inj.mp hid, groupName_inj (String.toList_inj.mp hname)⟩

/-- The turns of one route are under different keys. -/
theorem turnsKey_ne (id : String) {part part' : Option Bool} (h : part ≠ part') :
    turnsKey id part ≠ turnsKey id part' := by
  intro hkey
  have hlength := congrArg (fun key => key.toList.length) hkey
  cases part with
  | none =>
    cases part' with
    | none => exact h rfl
    | some g' =>
      rw [length_turnsKey] at hlength
      exact Nat.ne_of_lt (Nat.lt_add_of_pos_right (by decide)) hlength
  | some g =>
    cases part' with
    | none =>
      rw [length_turnsKey] at hlength
      exact Nat.ne_of_gt (Nat.lt_add_of_pos_right (by decide)) hlength
    | some g' => exact h (congrArg some (turnsKey_inj hkey).2)

/-- No id is that of another route with the name of a group behind it. -/
def KeysApart (ids : List String) : Prop :=
  ∀ id ∈ ids, ∀ other ∈ ids, ∀ g, other ≠ turnsKey id (some g)

instance (ids : List String) : Decidable (KeysApart ids) :=
  inferInstanceAs (Decidable (∀ id ∈ ids, ∀ other ∈ ids, ∀ g, other ≠ turnsKey id (some g)))

theorem KeysApart.ne {ids : List String} (hids : KeysApart ids) {id other : String}
    (hid : id ∈ ids) (hother : other ∈ ids) (hne : other ≠ id) (part part' : Option Bool) :
    turnsKey other part ≠ turnsKey id part' := by
  intro hkey
  match part, part' with
  | none, none => exact hne hkey
  | none, some g => exact hids id hid other hother g hkey
  | some g, none => exact hids other hother id hid g hkey.symm
  | some g, some g' => exact hne (turnsKey_inj hkey).1

/-! ### Selections -/

/-- A route and a request that is on its way to it. -/
structure Selection where
  route : Route
  fields : Fields
  client : String

namespace Selection

/-- The group whose instances take turns for the request. It is the group that the request belongs
to, if that has a healthy instance; otherwise all healthy instances take turns. -/
def part (s : Selection) : Option Bool :=
  (grayGroup s.route s.fields s.client).filter fun g =>
    (healthyCandidates s.route).any (·.2.gray == g)

/-- The key of the turns. -/
def key (s : Selection) : String := turnsKey s.route.id s.part

/-- The candidates that take turns for the request. -/
def candidates (s : Selection) : List Candidate :=
  (partition s.route (healthyCandidates s.route) (grayGroup s.route s.fields s.client)).2

/-- What a turn comes to. -/
def answer (s : Selection) (turn : Option Nat) : Except RequestError Candidate :=
  match turn.bind (s.candidates[·]?) with
  | some c => .ok c
  | none => .error .noInstance

end Selection

theorem partition_key (r : Route) (healthy : List Candidate) (group : Option Bool) :
    (partition r healthy group).1
      = turnsKey r.id (group.filter fun g => healthy.any (·.2.gray == g)) := by
  cases group with
  | none => rfl
  | some g =>
    have hany : (healthy.filter (·.2.gray == g)).isEmpty = !healthy.any (·.2.gray == g) := by
      induction healthy with
      | nil => rfl
      | cons c rest ih => cases hc : c.2.gray == g <;> simp_all
    rw [Option.filter_some]
    cases hmember : healthy.any (·.2.gray == g) with
    | false => simp [partition, hany, hmember, turnsKey]
    | true => simp [partition, hany, hmember, turnsKey, groupName]

namespace Balancers

variable {b b' : Balancers} {policy : Balancing} {key key' : String} {weights : List Nat}
  {s : Selection}

/-- What is remembered under a key. -/
def turnsAt (b : Balancers) (key : String) : Option Nat × Option Rotation :=
  (b.roundRobin.counters.find key, b.weighted.rotations.find key)

/-- A turn changes nothing under other keys. -/
theorem choose_other (h : key ≠ key') :
    (b.choose policy key weights).2.turnsAt key' = b.turnsAt key' := by
  match policy, weights with
  | .roundRobin, [] => rfl
  | .roundRobin, [w] => rfl
  | .roundRobin, w :: w' :: rest =>
    exact congrArg (·, b.weighted.rotations.find key') (Keyed.find_set_other _ h _)
  | .weightedRoundRobin, [] => rfl
  | .weightedRoundRobin, [w] => rfl
  | .weightedRoundRobin, w :: w' :: rest =>
    exact congrArg (b.roundRobin.counters.find key', ·) (Keyed.find_set_other _ h _)

/-- A turn depends on what is remembered under its key only. -/
theorem choose_congr (policy : Balancing) (weights : List Nat)
    (h : b.turnsAt key = b'.turnsAt key) :
    (b.choose policy key weights).1 = (b'.choose policy key weights).1 ∧
      (b.choose policy key weights).2.turnsAt key
        = (b'.choose policy key weights).2.turnsAt key := by
  obtain ⟨hcounter, hrotation⟩ := Prod.mk.inj h
  have hcount : b.roundRobin.counter key = b'.roundRobin.counter key :=
    congrArg (·.getD 0) hcounter
  have hturn (ws : List Nat) : b.weighted.rotation key ws = b'.weighted.rotation key ws := by
    rw [Weighted.rotation, Weighted.rotation, hrotation]
  match policy, weights with
  | .roundRobin, [] => exact ⟨rfl, h⟩
  | .roundRobin, [w] => exact ⟨rfl, h⟩
  | .roundRobin, w :: w' :: rest =>
    simp only [choose, RoundRobin.choose, List.length_cons, turnsAt, RoundRobin.advance, hcount,
      hrotation, Keyed.find_set_self, and_self]
  | .weightedRoundRobin, [] => exact ⟨rfl, h⟩
  | .weightedRoundRobin, [w] => exact ⟨rfl, h⟩
  | .weightedRoundRobin, w :: w' :: rest =>
    simp only [choose, Weighted.choose, turnsAt, hturn, hcounter, Keyed.find_set_self, and_self]

/-- The instance for a request, with the turns afterwards. -/
def serve (b : Balancers) (s : Selection) : Except RequestError Candidate × Balancers :=
  b.select s.route s.fields s.client

theorem serve_none (h : healthyCandidates s.route = []) :
    b.serve s = (.error .noInstance, b) := by
  rw [serve, select, if_pos (by rw [h]; rfl)]

theorem serve_some (h : healthyCandidates s.route ≠ []) :
    b.serve s =
      (s.answer (b.choose s.route.balancing s.key (s.candidates.map (·.2.weight))).1,
        (b.choose s.route.balancing s.key (s.candidates.map (·.2.weight))).2) := by
  have hpartition : partition s.route (healthyCandidates s.route)
      (grayGroup s.route s.fields s.client) = (s.key, s.candidates) :=
    Prod.ext (partition_key ..) rfl
  rw [serve, select, if_neg (by simpa using h), hpartition]
  dsimp only
  split
  · next hturn => simp [Selection.answer, hturn]
  · next hturn => simp [Selection.answer, hturn]

/-- A selection changes nothing under other keys. -/
theorem serve_other (h : s.key ≠ key') : (b.serve s).2.turnsAt key' = b.turnsAt key' := by
  by_cases hhealthy : healthyCandidates s.route = []
  · rw [serve_none hhealthy]
  · rw [serve_some hhealthy]
    exact choose_other h

/-- A selection depends on what is remembered under its own key only. -/
theorem serve_congr (h : b.turnsAt s.key = b'.turnsAt s.key) :
    (b.serve s).1 = (b'.serve s).1 ∧
      (b.serve s).2.turnsAt s.key = (b'.serve s).2.turnsAt s.key := by
  by_cases hhealthy : healthyCandidates s.route = []
  · rw [serve_none hhealthy, serve_none hhealthy]
    exact ⟨rfl, h⟩
  · rw [serve_some hhealthy, serve_some hhealthy]
    obtain ⟨hturn, hafter⟩ := choose_congr s.route.balancing (s.candidates.map (·.2.weight)) h
    exact ⟨congrArg s.answer hturn, hafter⟩

/-! ### Runs -/

/-- A selection with its answer. -/
abbrev Answered := Selection × Except RequestError Candidate

/-- Selections one after another. -/
def answers (b : Balancers) : List Selection → List Answered
  | [] => []
  | s :: rest => (s, (b.serve s).1) :: (b.serve s).2.answers rest

/-- What was picked for a group of a route. -/
def picks (id : String) (part : Option Bool) (run : List Answered) :
    List (Except RequestError Candidate) :=
  (run.filter fun e => e.1.route.id = id ∧ e.1.part = part).map (·.2)

variable {id : String} {part : Option Bool} {run run' : List Answered}
  {c c' : Except RequestError Candidate}

theorem picks_cons_other (h : s.route.id ≠ id) :
    picks id part ((s, c) :: run) = picks id part run := by
  rw [picks, picks, List.filter_cons, if_neg (by simp [h])]

theorem picks_cons_congr (hc : c = c') (h : picks id part run = picks id part run') :
    picks id part ((s, c) :: run) = picks id part ((s, c') :: run') := by
  unfold picks at h ⊢
  rw [List.filter_cons, List.filter_cons]
  by_cases hs : s.route.id = id ∧ s.part = part
  · rw [if_pos (by simpa using hs), if_pos (by simpa using hs), List.map_cons, List.map_cons, h, hc]
  · rw [if_neg (by simpa using hs), if_neg (by simpa using hs), h]

/-- Selections for other routes can be left out, whatever is remembered under keys that are not
those of the route. -/
theorem picks_leave_out {ids : List String} (hids : KeysApart ids) (hid : id ∈ ids)
    {sels : List Selection} (hsels : ∀ s ∈ sels, s.route.id ∈ ids)
    (h : ∀ part, b.turnsAt (turnsKey id part) = b'.turnsAt (turnsKey id part)) :
    picks id part (b.answers sels)
      = picks id part (b'.answers (sels.filter (·.route.id = id))) := by
  induction sels generalizing b b' with
  | nil => rfl
  | cons s rest ih =>
    have hrest : ∀ s ∈ rest, s.route.id ∈ ids := fun s hs => hsels s (List.mem_cons_of_mem _ hs)
    by_cases hs : s.route.id = id
    · rw [List.filter_cons, if_pos (by simpa using hs)]
      have hturns : b.turnsAt s.key = b'.turnsAt s.key := by
        rw [Selection.key, hs]
        exact h s.part
      obtain ⟨hanswer, hown⟩ := serve_congr hturns
      refine picks_cons_congr hanswer (ih hrest fun part' => ?_)
      by_cases hpart : s.part = part'
      · rw [← hpart, ← hs]
        exact hown
      · -- The route has selected for another group.
        have hkey : s.key ≠ turnsKey id part' := hs ▸ turnsKey_ne s.route.id hpart
        rw [serve_other hkey, serve_other hkey, h part']
    · rw [List.filter_cons, if_neg (by simpa using hs)]
      refine (picks_cons_other hs).trans (ih hrest fun part' => ?_)
      have hkey : s.key ≠ turnsKey id part' :=
        hids.ne hid (hsels s List.mem_cons_self) hs s.part part'
      rw [serve_other hkey, h part']

/-! ### Routes that meet -/

/-- A route with two instances. Where it has a group, all its requests and instances are of it. -/
def pair (id : String) (group : Option Bool) : Route where
  id := id
  path := "/"
  balancing := .roundRobin
  gray := group.map fun g => ⟨true, none, none, some (if g then ["*"] else []), none⟩
  filters := []
  resilient := false
  instances := [81, 82].map fun port =>
    let host : Url.Host := .address (.v6 [0, 0, 0, 0, 0, 0, 0, 1])
    ⟨"web", ⟨"http".toList, [], [], some host, some port, ['/'], none, none⟩, "[::1]", port, 1,
      group.getD false, .given true⟩

/-- A selection for such a route. -/
def pairSelection (id : String) (group : Option Bool) : Selection :=
  ⟨pair id group, .empty, "10.0.0.1"⟩

theorem part_pairSelection (id : String) (group : Option Bool) :
    (pairSelection id group).part = group := by
  match group with
  | none => rfl
  | some false => rfl
  | some true => rfl

theorem candidates_pairSelection (id : String) (group : Option Bool) :
    ∃ i j, (pairSelection id group).candidates = [(0, i), (1, j)] := by
  match group with
  | none => exact ⟨_, _, rfl⟩
  | some false => exact ⟨_, _, rfl⟩
  | some true => exact ⟨_, _, rfl⟩

/-- The instances of such a route take turns. -/
theorem serve_pairSelection (b : Balancers) (id : String) (group : Option Bool) :
    ((b.serve (pairSelection id group)).1.toOption.map (·.1)
        = some (b.roundRobin.counter (turnsKey id group) % 2)) ∧
      (b.serve (pairSelection id group)).2
        = { b with roundRobin := b.roundRobin.advance (turnsKey id group) } := by
  obtain ⟨i, j, hcandidates⟩ := candidates_pairSelection id group
  have hhealthy : healthyCandidates (pairSelection id group).route ≠ [] := List.cons_ne_nil _ _
  have hkey : (pairSelection id group).key = turnsKey id group :=
    congrArg (turnsKey id) (part_pairSelection id group)
  rw [serve_some hhealthy, hkey, hcandidates]
  refine ⟨?_, rfl⟩
  have hturn : b.roundRobin.counter (turnsKey id group) % 2 < 2 := Nat.mod_lt _ Nat.two_pos
  show ((pairSelection id group).answer
    (some (b.roundRobin.counter (turnsKey id group) % 2))).toOption.map (·.1) = _
  generalize b.roundRobin.counter (turnsKey id group) % 2 = turn at hturn
  match turn, hturn with
  | 0, _ => simp [Selection.answer, hcandidates, Except.toOption]
  | 1, _ => simp [Selection.answer, hcandidates, Except.toOption]

theorem picks_pairSelection (b : Balancers) (id : String) (group : Option Bool) :
    picks id group (b.answers [pairSelection id group])
      = [(b.serve (pairSelection id group)).1] := by
  have hid : (pairSelection id group).route.id = id := rfl
  simp [picks, answers, part_pairSelection, hid]

/-- **When routes take turns apart.** The picks for one group of a route, or for all its instances,
are those of the run in which the selections for other routes are left out: in every run, from
whatever turns, exactly if no id is that of another route with the name of a group behind it. -/
theorem picks_apart_iff (ids : List String) :
    KeysApart ids ↔
      ∀ (b : Balancers) (sels : List Selection), (∀ s ∈ sels, s.route.id ∈ ids) →
        ∀ id ∈ ids, ∀ part, picks id part (b.answers sels)
          = picks id part (b.answers (sels.filter (·.route.id = id))) := by
  constructor
  · intro hids b sels hsels id hid part
    exact picks_leave_out hids hid hsels fun _ => rfl
  · intro hpicks id hid other hother g hkey
    -- The other route has had one turn, which counts for the group as well.
    let before := pairSelection other none
    let asked := pairSelection id (some g)
    have hne : before.route.id ≠ id := by
      intro hid'
      exact turnsKey_ne id (Option.some_ne_none g) (hkey.symm.trans hid')
    have hsels : ∀ s ∈ [before, asked], s.route.id ∈ ids := by
      intro s hs
      rcases List.mem_pair.mp hs with rfl | rfl
      · exact hother
      · exact hid
    have hrun := hpicks .empty [before, asked] hsels id hid (some g)
    have hkept : [before, asked].filter (·.route.id = id) = [asked] := by
      have hasked : asked.route.id = id := rfl
      simp [hne, hasked]
    rw [hkept, answers, picks_cons_other hne] at hrun
    rw [picks_pairSelection, picks_pairSelection, List.cons.injEq] at hrun
    have hsecond := (serve_pairSelection (Balancers.empty.serve before).2 id (some g)).1
    have hfirst := (serve_pairSelection .empty id (some g)).1
    have hzero : Balancers.empty.roundRobin.counter (turnsKey id (some g)) = 0 := rfl
    have hone : (Balancers.empty.serve before).2.roundRobin.counter (turnsKey id (some g)) = 1 := by
      rw [(serve_pairSelection .empty other none).2, ← hkey]
      exact RoundRobin.counter_advance_self ..
    rw [hrun.1, hfirst, hzero, hone] at hsecond
    exact absurd (Option.some.inj hsecond) (by decide)

/-- Two routes that are named nearly alike, in turns. The gray instances of the one are not moved on
by what is selected for the other one, and the other way round. -/
theorem picks_apart_iff_nearly_alike :
    let gray := pairSelection "a" (some true)
    let plain := pairSelection "a-gray" none
    let sels := [plain, gray, plain, gray]
    KeysApart ["a", "a-gray"] ∧ (∀ s ∈ sels, s.route.id ∈ ["a", "a-gray"]) ∧
      picks "a" (some true) (Balancers.empty.answers sels)
        = picks "a" (some true) (Balancers.empty.answers [gray, gray]) ∧
      picks "a-gray" none (Balancers.empty.answers sels)
        = picks "a-gray" none (Balancers.empty.answers [plain, plain]) := by
  intro gray plain sels
  have hids : KeysApart ["a", "a-gray"] := by decide +kernel
  have hsels : ∀ s ∈ sels, s.route.id ∈ ["a", "a-gray"] := by decide +kernel
  have hpicks := (picks_apart_iff ["a", "a-gray"]).mp hids .empty sels hsels
  exact ⟨hids, hsels, hpicks "a" (by decide) (some true), hpicks "a-gray" (by decide) none⟩

/-- The settings of two routes, the one named like the gray group of the other one. They are
accepted, and one turn of the one route moves the gray instances of the other one on. -/
theorem gray_turns_moved_by_other_route :
    let instances (gray : Bool) : List InstanceSpec :=
      [⟨"web", "http://[::1]:81", 1, true, gray⟩, ⟨"web", "http://[::1]:82", 1, true, gray⟩]
    let grayRelease : GrayRelease := { enabled := true, addressRanges := some ["*"] }
    let specs : List RouteSpec :=
      [{ id := "a", path := "/", grayRelease := some grayRelease, instances := instances true },
        { id := "a:gray", path := "/", instances := instances false }]
    routeProblems [] specs = [] ∧
      specs.mapM (Route.ofSpec · false) = .ok [pair "a" (some true), pair "a:gray" none] ∧
      let sels := [pairSelection "a:gray" none, pairSelection "a" (some true)]
      picks "a" (some true) (Balancers.empty.answers sels)
        ≠ picks "a" (some true) (Balancers.empty.answers (sels.filter (·.route.id = "a"))) := by
  refine ⟨by decide +kernel, by decide +kernel, by decide +kernel⟩

end Balancers

end HttpGateway.Balance
