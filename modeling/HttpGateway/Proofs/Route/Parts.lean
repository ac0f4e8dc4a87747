/-
Mounts and the parts of a path.

* **parts** — a path cut at its slashes. Unlike its segments, its parts may be empty, and the path
  can be put together from them again.
* `parts_prefix_iff`, `parts_proper_iff` — the parts of a path begin with those of another one
  exactly where the path goes on with a slash behind the other one, if it goes on at all.
* `underMount_iff_parts`, `underMount_slash_iff_parts` — so it is the parts that say which paths are
  below a mount.
* `below_mount_by_parts` — the two together, with what follows: no mount ends within a part, and
  what is below something that is below a mount is below the mount.

A slash at the end of a mount makes one more part, an empty one, which no path below the mount needs
to have. It stands for the demand that something follows the mount without that slash.
-/
import HttpGateway.Proofs.Route.Mount

namespace HttpGateway.Route

/-- The parts of a path between its slashes, with the empty ones. -/
def parts (path : List Char) : List (List Char) := path.splitOn '/'

section

variable {mount path further a : List Char}

/-! ### Parts -/

theorem parts_append_slash (a b : List Char) : parts (a ++ '/' :: b) = parts a ++ parts b :=
  List.splitOn_append_cons_self a b

theorem parts_injective : Function.Injective parts := by
  intro a b h
  have hjoined := congrArg ['/'].intercalate h
  rwa [parts, parts, List.intercalate_splitOn, List.intercalate_splitOn] at hjoined

/-- Parts without slashes are those of a path. -/
theorem exists_parts_eq {ls : List (List Char)} (hls : ls ≠ []) (h : ∀ s ∈ ls, '/' ∉ s) :
    ∃ path, parts path = ls :=
  ⟨['/'].intercalate ls, List.splitOn_intercalate '/' h hls⟩

/-- The parts of a path begin with those of another one if the path is the other one, or goes on
with a slash behind it. -/
theorem parts_prefix_iff : parts a <+: parts path ↔ path = a ∨ ∃ rest, path = a ++ '/' :: rest := by
  constructor
  · rintro ⟨others, h⟩
    by_cases hnone : others = []
    · rw [hnone, List.append_nil] at h
      exact .inl (parts_injective h.symm)
    · have hslash : ∀ s ∈ others, '/' ∉ s := fun s hs =>
        not_mem_of_mem_splitOn (h ▸ List.mem_append_right (parts a) hs)
      obtain ⟨rest, hrest⟩ := exists_parts_eq hnone hslash
      refine .inr ⟨rest, parts_injective ?_⟩
      rw [parts_append_slash, hrest, h]
  · rintro (rfl | ⟨rest, rfl⟩)
    · exact List.prefix_refl _
    · rw [parts_append_slash]
      exact List.prefix_append ..

theorem parts_proper_iff :
    parts a <+: parts path ∧ parts a ≠ parts path ↔ ∃ rest, path = a ++ '/' :: rest := by
  rw [parts_prefix_iff]
  constructor
  · rintro ⟨rfl | hrest, hne⟩
    · exact absurd rfl hne
    · exact hrest
  · rintro ⟨rest, rfl⟩
    refine ⟨.inr ⟨rest, rfl⟩, fun h => ?_⟩
    have hlength := congrArg List.length (parts_injective h)
    simp at hlength

/-! ### Paths below a mount -/

theorem underMount_iff_parts (h : mount.getLast? ≠ some '/') :
    underMount mount path = true ↔ parts mount <+: parts path := by
  rw [underMount_iff, parts_prefix_iff]
  constructor
  · rintro ⟨rest, rfl, rfl | hlast | hhead⟩
    · exact .inl (List.append_nil _)
    · exact absurd hlast h
    · obtain ⟨back, rfl⟩ := List.head?_eq_some_iff.mp hhead
      exact .inr ⟨back, rfl⟩
  · rintro (rfl | ⟨rest, rfl⟩)
    · exact ⟨[], (List.append_nil _).symm, .inl rfl⟩
    · exact ⟨'/' :: rest, rfl, .inr (.inr rfl)⟩

/-- Below a mount with a slash at its end is what goes on behind that slash. -/
theorem underMount_slash_iff_parts :
    underMount (a ++ ['/']) path = true ↔ parts a <+: parts path ∧ parts a ≠ parts path := by
  rw [underMount_iff, parts_proper_iff]
  constructor
  · rintro ⟨rest, rfl, -⟩
    exact ⟨rest, (List.append_cons ..).symm⟩
  · rintro ⟨rest, rfl⟩
    exact ⟨rest, List.append_cons .., .inr (.inl List.getLast?_concat)⟩

theorem underMount_refl (mount : List Char) : underMount mount mount = true :=
  underMount_iff.mpr ⟨[], (List.append_nil _).symm, .inl rfl⟩

theorem underMount_trans (h : underMount mount path = true) (h' : underMount path further = true) :
    underMount mount further = true := by
  obtain ⟨rest, rfl, hmeet⟩ := underMount_iff.mp h
  obtain ⟨rest', rfl, hmeet'⟩ := underMount_iff.mp h'
  refine underMount_iff.mpr ⟨rest ++ rest', List.append_assoc .., ?_⟩
  cases rest with
  | nil =>
    rw [List.append_nil] at hmeet'
    exact hmeet'
  | cons c rest =>
    -- Where the mount and the path meet, the slash is there already.
    rcases hmeet with hnil | hlast | hhead
    · exact absurd hnil (List.cons_ne_nil _ _)
    · exact .inr (.inl hlast)
    · exact .inr (.inr hhead)

/-- **Which paths are below a mount.** For a mount that does not end in a slash they are those whose
parts begin with the parts of the mount; for one that does, those whose parts begin with the parts
in front of that slash and go on. So a mount without a slash at its end never matches a path that
goes on within the mount's last part. Everything is below itself, and what is below something below
a mount is below the mount. -/
theorem below_mount_by_parts (mount path : List Char) :
    (mount.getLast? ≠ some '/' →
      (underMount mount path = true ↔ parts mount <+: parts path) ∧
      ∀ c rest, c ≠ '/' → underMount mount (mount ++ c :: rest) = false) ∧
    (∀ front, mount = front ++ ['/'] →
      (underMount mount path = true ↔ parts front <+: parts path ∧ parts front ≠ parts path)) ∧
    underMount mount mount = true ∧
    ∀ further, underMount mount path = true → underMount path further = true →
      underMount mount further = true := by
  refine ⟨fun h => ⟨underMount_iff_parts h, fun c rest hc => ?_⟩, ?_, underMount_refl mount,
    fun _ => underMount_trans⟩
  · refine Bool.eq_false_iff.mpr fun hbelow => ?_
    rcases parts_prefix_iff.mp ((underMount_iff_parts h).mp hbelow) with heq | ⟨back, heq⟩
    · have hnil := List.append_right_eq_self.mp heq
      exact List.cons_ne_nil _ _ hnil
    · exact hc (List.cons.inj (List.append_cancel_left heq)).1
  · rintro front rfl
    exact underMount_slash_iff_parts

/-- Doubled slashes are parts of their own: a mount with one matches only paths that have it. A
mount with a slash at its end does not match the path without it. -/
theorem below_mount_by_parts_doubled :
    "/a//b".toList.getLast? ≠ some '/' ∧
      underMount "/a//b".toList "/a//b/c".toList = true ∧
      underMount "/a//b".toList "/a/b/c".toList = false ∧
      underMount "/a//b".toList "/a//bc".toList = false ∧
      underMount "/a/".toList "/a".toList = false ∧
      underMount "/a".toList "/a//b/c".toList = true := by
  have hmount : "/a//b".toList.getLast? ≠ some '/' := by decide
  obtain ⟨hbelow, hwithin⟩ := (below_mount_by_parts "/a//b".toList "/a//b/c".toList).1 hmount
  have hother := ((below_mount_by_parts "/a//b".toList "/a/b/c".toList).1 hmount).1
  have hslash := (below_mount_by_parts "/a/".toList "/a".toList).2.1 "/a".toList (by decide)
  have htrans := (below_mount_by_parts "/a".toList "/a//b".toList).2.2.2 "/a//b/c".toList
  have hab : underMount "/a//b".toList "/a//b/c".toList = true := hbelow.mpr (by decide)
  refine ⟨hmount, hab, ?_, hwithin 'c' [] (by decide), ?_, htrans (by decide) hab⟩
  · exact Bool.eq_false_iff.mpr fun h => absurd (hother.mp h) (by decide)
  · exact Bool.eq_false_iff.mpr fun h => (hslash.mp h).2 (by decide)

end

end HttpGateway.Route
