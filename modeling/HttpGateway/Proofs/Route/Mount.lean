/-
Mounts, and what is put in their place.

* `segments_append_slash` — a slash parts the segments before it from those behind it.
* `segments_underMount` — the segments of a path below a mount are those of the mount, and then
  those of what follows.
* `segments_backendPath`, `backendPath_ends_in_slash` — the path of the request to an instance.
* `rewrite_below_mount` — of a path below a mount, exactly the segments of the mount are replaced,
  by those of the base path.

Whether a path is below a mount is told by comparing characters, and what is taken off is told by
counting segments. Both come to the same because a mount only ends where a segment does.
-/
import HttpGateway.Route.Mount

namespace HttpGateway.Route

open Text

variable {mount path base : List Char}

/-! ### Segments -/

theorem segments_append_slash (a b : List Char) :
    segments (a ++ '/' :: b) = segments a ++ segments b := by
  rw [segments, List.splitOn_append_cons_self, List.filter_append]
  rfl

/-- Slashes at the end make no segments. -/
theorem segments_append_slashes (a : List Char) {b : List Char} (h : ∀ c ∈ b, c = '/') :
    segments (a ++ b) = segments a := by
  induction b generalizing a with
  | nil => rw [List.append_nil]
  | cons c rest ih =>
    obtain ⟨rfl, hrest⟩ := List.forall_mem_cons.mp h
    have hnone : segments rest = [] := ih [] hrest
    rw [segments_append_slash, hnone, List.append_nil]

theorem not_mem_of_mem_splitOn {s : List Char} (h : s ∈ path.splitOn '/') : '/' ∉ s := by
  induction path generalizing s with
  | nil =>
    rw [List.splitOn_nil, List.mem_singleton] at h
    simp [h]
  | cons c rest ih =>
    rw [List.splitOn_cons_eq_if_modifyHead] at h
    by_cases hc : c = '/'
    · rw [if_pos (by simpa using hc)] at h
      rcases List.mem_cons.mp h with rfl | h
      · exact List.not_mem_nil
      · exact ih h
    · -- The character goes to the first part, and the other parts stay.
      rw [if_neg (by simpa using hc)] at h
      cases hparts : rest.splitOn '/' with
      | nil => exact absurd hparts (List.splitOn_ne_nil _ _)
      | cons first others =>
        rw [hparts] at h ih
        rcases List.mem_cons.mp h with rfl | h
        · exact List.not_mem_cons_of_ne_of_not_mem (Ne.symm hc) (ih List.mem_cons_self)
        · exact ih (List.mem_cons_of_mem _ h)

/-- A segment is not empty and has no slash in it. -/
theorem of_mem_segments {s : List Char} (h : s ∈ segments path) : s ≠ [] ∧ '/' ∉ s := by
  obtain ⟨hmem, hne⟩ := List.mem_filter.mp h
  exact ⟨by simpa using hne, not_mem_of_mem_splitOn hmem⟩

theorem segments_segment {s : List Char} (hne : s ≠ []) (h : '/' ∉ s) : segments s = [s] := by
  rw [segments, List.splitOn_eq_singleton h, List.filter_cons, if_pos (by simpa using hne)]
  rfl

/-- Segments that are put together, each parted from the next by a slash, are the same segments. -/
theorem segments_intercalate {ls : List (List Char)} (h : ∀ s ∈ ls, s ≠ [] ∧ '/' ∉ s) :
    segments (['/'].intercalate ls) = ls := by
  induction ls with
  | nil => rfl
  | cons s rest ih =>
    obtain ⟨⟨hne, hs⟩, hrest⟩ := List.forall_mem_cons.mp h
    cases rest with
    | nil => simpa using segments_segment hne hs
    | cons s' rest =>
      rw [List.intercalate_cons_cons, List.append_assoc, List.singleton_append,
        segments_append_slash, segments_segment hne hs, ih hrest, List.singleton_append]

/-- Segments that are put together do not end in a slash. -/
theorem getLast?_intercalate {ls : List (List Char)} (h : ∀ s ∈ ls, s ≠ [] ∧ '/' ∉ s)
    (hls : ls ≠ []) : ∃ c, (['/'].intercalate ls).getLast? = some c ∧ c ≠ '/' := by
  induction ls with
  | nil => exact absurd rfl hls
  | cons s rest ih =>
    obtain ⟨⟨hne, hs⟩, hrest⟩ := List.forall_mem_cons.mp h
    cases rest with
    | nil =>
      refine ⟨s.getLast hne, ?_, fun hc => hs (hc ▸ List.getLast_mem hne)⟩
      simpa using List.getLast?_eq_some_getLast hne
    | cons s' rest =>
      obtain ⟨c, hlast, hc⟩ := ih hrest (List.cons_ne_nil _ _)
      refine ⟨c, ?_, hc⟩
      rw [List.intercalate_cons_cons, List.getLast?_append, hlast, Option.some_or]

/-! ### Paths below a mount -/

/-- A path below a mount is the mount and what follows it, and one of the two parts has a slash
where they meet, unless nothing follows. -/
theorem underMount_iff : underMount mount path = true ↔
    ∃ rest, path = mount ++ rest ∧
      (rest = [] ∨ mount.getLast? = some '/' ∨ rest.head? = some '/') := by
  constructor
  · intro h
    rcases Bool.or_eq_true_iff.mp h with h | h
    · exact ⟨[], by simpa using h, .inl rfl⟩
    · obtain ⟨hbelow, hslash⟩ := Bool.and_eq_true_iff.mp h
      obtain ⟨rest, rfl⟩ := List.isPrefixOf_iff_prefix.mp hbelow
      refine ⟨rest, rfl, .inr ?_⟩
      simpa using hslash
  · rintro ⟨rest, rfl, rfl | h⟩
    · simp [underMount]
    · simp [underMount, h]

/-- The segments of a path below a mount. -/
theorem segments_underMount (h : underMount mount path = true) :
    segments path = segments mount ++ segments (path.drop mount.length) := by
  obtain ⟨rest, rfl, hmeet⟩ := underMount_iff.mp h
  rw [List.drop_left]
  rcases hmeet with rfl | hlast | hhead
  · rw [List.append_nil]
    exact (List.append_nil _).symm
  · -- The slash at the end of the mount parts the two.
    obtain ⟨front, rfl⟩ := List.getLast?_eq_some_iff.mp hlast
    rw [List.append_assoc, List.singleton_append, segments_append_slash, segments_append_slash]
    exact congrArg (· ++ _) (List.append_nil _).symm
  · obtain ⟨back, rfl⟩ := List.head?_eq_some_iff.mp hhead
    rw [segments_append_slash]
    exact congrArg (_ ++ ·) (segments_append_slash [] back).symm

/-! ### The path of the request to an instance -/

theorem segments_withoutTrailingSlashes (base : List Char) :
    segments (withoutTrailingSlashes base) = segments base := by
  obtain ⟨slashes, hbase, hall⟩ := trimEnd_append (· == '/') base
  calc segments (withoutTrailingSlashes base)
      = segments (withoutTrailingSlashes base ++ slashes) :=
        (segments_append_slashes _ fun c hc => by simpa using hall c hc).symm
    _ = segments base := congrArg segments hbase.symm

theorem of_mem_drop_segments {depth : Nat} :
    ∀ s ∈ (segments path).drop depth, s ≠ [] ∧ '/' ∉ s :=
  fun _ hs => of_mem_segments (List.mem_of_mem_drop hs)

theorem segments_backendPath (path : List Char) (depth : Nat) (base : List Char) :
    segments (backendPath path depth base) = segments base ++ (segments path).drop depth := by
  have htail : ∀ c ∈ (if !((segments path).drop depth).isEmpty && path.getLast? == some '/'
      then ['/'] else []), c = '/' := by
    intro c hc
    split at hc
    · exact List.mem_singleton.mp hc
    · exact absurd hc List.not_mem_nil
  rw [backendPath, segments_append_slashes _ htail, segments_append_slash,
    segments_withoutTrailingSlashes, segments_intercalate of_mem_drop_segments]

/-- Where segments are left, a slash stays at the end and none is added. -/
theorem backendPath_ends_in_slash {depth : Nat} (h : (segments path).drop depth ≠ []) :
    (backendPath path depth base).getLast? = some '/' ↔ path.getLast? = some '/' := by
  have hleft : ((segments path).drop depth).isEmpty = false := by simpa using h
  by_cases hslash : path.getLast? = some '/'
  · refine iff_of_true ?_ hslash
    simp [backendPath, hleft, hslash, List.getLast?_append, List.getLast?_cons]
  · obtain ⟨c, hlast, hc⟩ := getLast?_intercalate of_mem_drop_segments h
    refine iff_of_false ?_ hslash
    simp [backendPath, hleft, hslash, List.getLast?_append, List.getLast?_cons, hlast, hc]

/-- **What becomes of a path below a mount.** Its first segments, as many as the route takes off,
are those of the mount, and the others are those of what follows the mount. These are put behind the
segments of the base path, none of them lost and none of the mount's kept; a slash at the end is
kept where one of them is left, and the query comes last as it was. -/
theorem rewrite_below_mount (h : underMount mount path = true) :
    let depth := mountDepth mount
    let rest := segments (path.drop mount.length)
    (segments path).take depth = segments mount ∧ (segments path).drop depth = rest ∧
      ∀ base, ∃ target,
        segments target = segments base ++ rest ∧
        (rest ≠ [] → (target.getLast? = some '/' ↔ path.getLast? = some '/')) ∧
        ∀ query, backendTarget path query depth base = target ++ query.elim [] ('?' :: ·) := by
  intro depth rest
  have hpath : segments path = segments mount ++ rest := segments_underMount h
  have htake : (segments path).take depth = segments mount := by
    rw [hpath]
    exact List.take_left
  have hdrop : (segments path).drop depth = rest := by
    rw [hpath]
    exact List.drop_left
  refine ⟨htake, hdrop, fun base => ⟨backendPath path depth base, ?_, fun hrest => ?_, ?_⟩⟩
  · rw [segments_backendPath, hdrop]
  · rw [← hdrop] at hrest
    exact backendPath_ends_in_slash hrest
  · intro query
    cases query with
    | none => exact (List.append_nil _).symm
    | some q => rfl

/-- The mount has doubled slashes and one at its end, and so has the path below it. -/
theorem rewrite_below_mount_doubled :
    underMount "/svc//a/".toList "/svc//a//b//c/".toList = true ∧
      ∃ target, segments target = ["v2".toList, "b".toList, "c".toList] ∧
        target.getLast? = some '/' ∧
        backendTarget "/svc//a//b//c/".toList (some "x=1".toList) 2 "/v2/".toList
          = target ++ "?x=1".toList := by
  have h : underMount "/svc//a/".toList "/svc//a//b//c/".toList = true := by decide
  obtain ⟨-, -, hbase⟩ := rewrite_below_mount h
  obtain ⟨target, hsegments, hslash, hquery⟩ := hbase "/v2/".toList
  exact ⟨h, target, hsegments, (hslash (by decide)).mpr (by decide), hquery (some "x=1".toList)⟩

end HttpGateway.Route
