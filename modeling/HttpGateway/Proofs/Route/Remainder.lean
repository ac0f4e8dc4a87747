/-
What a path loses when its mount is taken off.

* **settled** — the segments of a path with one slash in front of each, and one at the end if the
  path ends in one. `settled_append` says that this is the path in which each run of slashes is one
  slash.
* **below** — what follows a mount in a path. The slash that parts the two belongs to what follows,
  and where nothing follows there is a slash.
* `target_below_mount` — so what follows the mount is put behind the base path of an instance with
  one slash for each run of them.
* `remainder_kept_iff` — what follows a mount reaches an instance as it is exactly if no slash in it
  follows another one.

A path is not cut where its mount ends: its segments are counted, those of the mount are left out,
and the others are put together again. Segments that are empty do not count, and do not come back.
-/
import HttpGateway.Proofs.Net.Address
import HttpGateway.Proofs.Route.Mount
import Mathlib.Data.List.Destutter

namespace HttpGateway.Route

open Net Text

variable {mount path base s w : List Char} {a : Char}

/-- Whether two characters are not both slashes. -/
def NotSlashes (a b : Char) : Prop := ¬ (a = '/' ∧ b = '/')

instance : DecidableRel NotSlashes := fun _ _ => inferInstanceAs (Decidable (¬ _))

/-! ### Runs of slashes -/

/-- As far as a path has no slash there is nothing to leave out. -/
theorem destutter'_segment (hne : w ≠ []) (hw : '/' ∉ w) (a : Char) :
    w.destutter' NotSlashes a = a :: w ∧
      ∀ s, (w ++ '/' :: s).destutter' NotSlashes a = a :: w ++ s.destutter' NotSlashes '/' := by
  induction w generalizing a with
  | nil => exact absurd rfl hne
  | cons c rest ih =>
    obtain ⟨hc, hrest⟩ := List.ne_and_not_mem_of_not_mem_cons hw
    have hfirst : NotSlashes a c := fun h => hc h.2.symm
    have hlast : NotSlashes c '/' := fun h => hc h.1.symm
    rw [List.destutter'_cons_pos _ hfirst]
    cases rest with
    | nil =>
      refine ⟨rfl, fun s => ?_⟩
      rw [List.singleton_append, List.destutter'_cons_pos _ hfirst,
        List.destutter'_cons_pos _ hlast]
      rfl
    | cons d rest =>
      obtain ⟨halone, hfollowed⟩ := ih (List.cons_ne_nil d rest) hrest c
      refine ⟨by rw [halone], fun s => ?_⟩
      rw [List.cons_append, List.destutter'_cons_pos _ hfirst, hfollowed]
      rfl

/-! ### Segments put together -/

/-- The segments of a path, each behind a slash. A slash at the end stays where there are any. -/
def settled (s : List Char) : List Char :=
  '/' :: ['/'].intercalate (segments s) ++
    if !(segments s).isEmpty && s.getLast? == some '/' then ['/'] else []

/-- A path that has no segments is a run of slashes. -/
theorem eq_slash_of_no_segments (h : segments s = []) (ha : a ∈ s) : a = '/' := by
  have hparts : ['/'].intercalate (s.splitOn '/') = s := List.intercalate_splitOn '/'
  rw [← hparts] at ha
  rcases of_mem_intercalate ha with hslash | ⟨part, hpart, ha⟩
  · exact hslash
  · have hempty : part = [] := by simpa using List.filter_eq_nil_iff.mp h part hpart
    rw [hempty] at ha
    exact absurd ha List.not_mem_nil

theorem settled_segment (hne : w ≠ []) (hw : '/' ∉ w) : settled w = '/' :: w := by
  have hend : (w.getLast? == some '/') = false := by
    rw [beq_eq_false_iff_ne]
    exact fun h => hw (List.mem_of_getLast? h)
  rw [settled, segments_segment hne hw, hend]
  simp

/-- A slash in front of a path changes nothing. -/
theorem settled_slash (s : List Char) : settled ('/' :: s) = settled s := by
  rw [settled, settled, show segments ('/' :: s) = segments s from segments_append_slash [] s]
  cases s <;> rfl

/-- A segment in front of a path and a slash comes first, and the rest stays as it is. -/
theorem settled_segment_slash (hne : w ≠ []) (hw : '/' ∉ w) (s : List Char) :
    settled (w ++ '/' :: s) = '/' :: w ++ settled s := by
  have hsegments : segments (w ++ '/' :: s) = w :: segments s := by
    rw [segments_append_slash, segments_segment hne hw, List.singleton_append]
  have hend : (w ++ '/' :: s).getLast? = ('/' :: s).getLast? := by
    rw [List.getLast?_append, List.getLast?_cons, Option.some_or]
  rw [settled, settled, hsegments, hend]
  by_cases hnone : segments s = []
  · have hslash : ('/' :: s).getLast? = some '/' := by
      rw [List.getLast?_eq_some_getLast (List.cons_ne_nil _ _)]
      rcases List.mem_cons.mp (List.getLast_mem (List.cons_ne_nil '/' s)) with heq | hmem
      · rw [heq]
      · rw [eq_slash_of_no_segments hnone hmem]
    simp [hnone, hslash]
  · obtain ⟨first, others, hparts⟩ := List.exists_cons_of_ne_nil hnone
    have hs : s ≠ [] := by
      rintro rfl
      exact hnone rfl
    simp [hparts, List.intercalate_cons_cons, List.getLast?_cons_of_ne_nil hs]

/-- Segments that are put together again are the path with one slash for each run of them. -/
theorem settled_append (hw : '/' ∉ w) : settled (w ++ s) = (w ++ s).destutter' NotSlashes '/' := by
  induction s generalizing w with
  | nil =>
    rw [List.append_nil]
    by_cases hne : w = []
    · rw [hne]
      rfl
    · rw [settled_segment hne hw, (destutter'_segment hne hw '/').1]
  | cons c s ih =>
    by_cases hc : c = '/'
    · subst hc
      have hrest : settled s = s.destutter' NotSlashes '/' := ih List.not_mem_nil
      by_cases hne : w = []
      · rw [hne, List.nil_append, settled_slash, hrest,
          List.destutter'_cons_neg _ (by simp [NotSlashes])]
      · rw [settled_segment_slash hne hw, hrest, (destutter'_segment hne hw '/').2]
    · have hwc : '/' ∉ w ++ [c] := by
        rw [List.mem_append, List.mem_singleton, not_or]
        exact ⟨hw, Ne.symm hc⟩
      have hnext := ih hwc
      rwa [List.append_assoc, List.singleton_append] at hnext

/-! ### What follows a mount -/

/-- What follows a mount in a path. The slash between the two belongs to it, also where it is
written as the last character of the mount; and where nothing follows, a slash stands for that. -/
def below (mount path : List Char) : List Char :=
  let rest := path.drop mount.length
  if mount.getLast? = some '/' ∨ rest = [] then '/' :: rest else rest

/-- What follows a mount begins with a slash, and the rest of it is an end of the path. -/
theorem below_eq_cons (h : underMount mount path = true) :
    ∃ s, below mount path = '/' :: s ∧ s <:+ path ∧
      segments s = segments (path.drop mount.length) := by
  obtain ⟨rest, hpath, hmeet⟩ := underMount_iff.mp h
  have hrest : path.drop mount.length = rest := by rw [hpath, List.drop_left]
  rw [below, hrest]
  by_cases hslash : mount.getLast? = some '/' ∨ rest = []
  · exact ⟨rest, if_pos hslash, hpath ▸ List.suffix_append _ _, rfl⟩
  · obtain ⟨hmount, hne⟩ := not_or.mp hslash
    obtain ⟨s, rfl⟩ :=
      List.head?_eq_some_iff.mp ((hmeet.resolve_left hne).resolve_left hmount)
    refine ⟨s, if_neg hslash, ?_, (segments_append_slash [] s).symm⟩
    exact (List.suffix_cons '/' s).trans (hpath ▸ List.suffix_append _ _)

/-- The path of the request to an instance: what follows the mount, with one slash for each run of
them, behind the base path. -/
theorem backendPath_below (h : underMount mount path = true) (base : List Char) :
    backendPath path (mountDepth mount) base
      = withoutTrailingSlashes base ++ (below mount path).destutter NotSlashes := by
  obtain ⟨s, hbelow, hend, hsegments⟩ := below_eq_cons h
  have hleft : (segments path).drop (mountDepth mount) = segments s := by
    rw [segments_underMount h, hsegments]
    exact List.drop_left
  -- The slash at the end is looked for in the whole path. Where segments are left it is behind them.
  have htail : (!(segments s).isEmpty && path.getLast? == some '/')
      = (!(segments s).isEmpty && s.getLast? == some '/') := by
    cases s with
    | nil => rfl
    | cons c s =>
      obtain ⟨front, rfl⟩ := hend
      rw [List.getLast?_append, List.getLast?_cons, Option.some_or]
  have hsettled : settled s = s.destutter' NotSlashes '/' := settled_append List.not_mem_nil
  rw [hbelow, List.destutter_cons', ← hsettled, settled, backendPath, hleft, htail,
    List.append_assoc]

theorem target_below_mount (h : underMount mount path = true) (base : List Char)
    (query : Option (List Char)) :
    backendTarget path query (mountDepth mount) base
      = withoutTrailingSlashes base ++ (below mount path).destutter NotSlashes
        ++ query.elim [] ('?' :: ·) := by
  rw [← backendPath_below h]
  cases query with
  | none => exact (List.append_nil _).symm
  | some q => rfl

/-- **When what follows a mount is kept.** The target of the request to an instance is the base path
without the slashes at its end, what follows the mount with one slash for each run of them, and the
query as it was. So what follows the mount is there as the client wrote it exactly if no slash in it
follows another one; and then that is so whatever the base path and the query are. -/
theorem remainder_kept_iff (h : underMount mount path = true) :
    (∀ base query, backendTarget path query (mountDepth mount) base
      = withoutTrailingSlashes base ++ (below mount path).destutter NotSlashes
        ++ query.elim [] ('?' :: ·)) ∧
    ∀ base query, backendTarget path query (mountDepth mount) base
        = withoutTrailingSlashes base ++ below mount path ++ query.elim [] ('?' :: ·)
      ↔ (below mount path).IsChain NotSlashes := by
  refine ⟨target_below_mount h, fun base query => ?_⟩
  rw [target_below_mount h, List.append_cancel_right_eq, List.append_cancel_left_eq,
    List.destutter_eq_self_iff]

/-- The mount has doubled slashes and one at its end. What follows it has none, and is kept. -/
theorem remainder_kept_iff_doubled_mount :
    let mount := "/svc//a/".toList
    let path := "/svc//a/b/c/".toList
    underMount mount path = true ∧ (below mount path).IsChain NotSlashes ∧
      backendTarget path (some "x=1".toList) (mountDepth mount) "/v2//".toList
        = "/v2/b/c/?x=1".toList := by
  intro mount path
  have h : underMount mount path = true := by decide
  have hchain : (below mount path).IsChain NotSlashes := by decide
  obtain ⟨-, hkept⟩ := remainder_kept_iff h
  exact ⟨h, hchain, ((hkept "/v2//".toList (some "x=1".toList)).mpr hchain).trans (by decide)⟩

/-- An empty segment is lost, wherever it is: inside what follows the mount, behind it, or where the
two meet. -/
theorem doubled_slash_lost :
    let mount := "/svc".toList
    (below mount "/svc/a//b".toList = "/a//b".toList ∧
      backendTarget "/svc/a//b".toList none (mountDepth mount) "/".toList = "/a/b".toList) ∧
    (below mount "/svc/a//".toList = "/a//".toList ∧
      backendTarget "/svc/a//".toList none (mountDepth mount) "/".toList = "/a/".toList) ∧
    (below mount "/svc//a".toList = "//a".toList ∧
      backendTarget "/svc//a".toList none (mountDepth mount) "/".toList = "/a".toList) ∧
    ¬ ∀ mount path, underMount mount path = true → ∀ base query,
      backendTarget path query (mountDepth mount) base
        = withoutTrailingSlashes base ++ below mount path ++ query.elim [] ('?' :: ·) := by
  intro mount
  refine ⟨by decide, by decide, by decide, fun hall => ?_⟩
  exact absurd (hall mount "/svc/a//b".toList (by decide) "/".toList none) (by decide)

end HttpGateway.Route
