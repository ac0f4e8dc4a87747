/-
Changes to a table of routes while it is in use.

* `add_cases` — the two ways in which a route is put into a table: at the end, or in the place of the
  first route with its id.
* `ids_add`, `ids_remove` — what a change does to the ids.
* `find?_add_of_new`, `find?_add_of_old`, `find?_remove` — the paths for which a change can give
  another answer.
* `sublist_editAll` — what every single change leaves in order, many changes leave in order.
* `edits_stay_local` — after any changes to a table whose ids are distinct, the ids are distinct,
  the routes that are left are in their order, the first route over a path answers for it, and one
  more change touches only the paths of the route it is about.

A change is told by what it does to the list, and the answers are then read off `List.find?` over
the part in front of the place where it happens and the part behind it.
-/
import HttpGateway.Route.Table
import HttpGateway.Proofs.Route.Mount

namespace HttpGateway.Route

variable {path : List Char}

/-- A route covers a path that starts with its mount, if the path ends there or a slash stands where
the mount ends. -/
def Covers (r : Route) (path : List Char) : Prop :=
  ∃ rest, path = r.path.toList ++ rest ∧
    (rest = [] ∨ r.path.toList.getLast? = some '/' ∨ rest.head? = some '/')

theorem serves_iff_covers {r : Route} : r.serves path = true ↔ r.Covers path := underMount_iff

namespace Table

variable {r old : Route} {t t' : Table} {id : String}

/-- The ids of a table in its order. -/
def ids (t : Table) : List String := t.map (·.id)

/-- A change to a table. -/
inductive Edit
  | add (r : Route)
  | remove (id : String)
  | replace (t : Table)

namespace Edit

/-- The routes that a change brings have distinct ids. -/
def Distinct : Edit → Prop
  | add _ | remove _ => True
  | replace t => t.ids.Nodup

instance : DecidablePred Distinct
  | add _ | remove _ => inferInstanceAs (Decidable True)
  | replace t => inferInstanceAs (Decidable t.ids.Nodup)

/-- Whether a route with the id is left in its place, be it with another definition. The routes of a
table that is put in place of another one are all new. -/
def keepsPlace : Edit → String → Bool
  | add _, _ => true
  | remove gone, id => id ≠ gone
  | replace _, _ => false

/-- Whether a route with the id is left as it is. -/
def keeps : Edit → String → Bool
  | add r, id => id ≠ r.id
  | remove gone, id => id ≠ gone
  | replace _, _ => false

end Edit

/-- The table after a change. -/
def edit (t : Table) : Edit → Table
  | .add r => t.add r
  | .remove id => (t.remove id).2
  | .replace t' => t'

/-- The table after several changes, one after another. -/
def editAll (t : Table) (edits : List Edit) : Table := edits.foldl edit t

/-! ### Where a route is put -/

theorem replaceFirst_of_not_mem (h : r.id ∉ t.ids) : replaceFirst r t = none := by
  induction t with
  | nil => rfl
  | cons x rest ih =>
    have hx : x.id ≠ r.id := fun hx => h (hx ▸ List.mem_cons_self)
    rw [replaceFirst, if_neg hx, ih fun hrest => h (List.mem_cons_of_mem _ hrest), Option.map_none]

theorem replaceFirst_of_mem (h : r.id ∈ t.ids) :
    ∃ front old back, t = front ++ old :: back ∧ old.id = r.id ∧
      replaceFirst r t = some (front ++ r :: back) := by
  induction t with
  | nil => exact absurd h List.not_mem_nil
  | cons x rest ih =>
    by_cases hx : x.id = r.id
    · exact ⟨[], x, rest, rfl, hx, by rw [replaceFirst, if_pos hx, List.nil_append]⟩
    · have hrest : r.id ∈ ids rest := (List.mem_cons.mp h).resolve_left (Ne.symm hx)
      obtain ⟨front, old, back, rfl, hid, hput⟩ := ih hrest
      refine ⟨x :: front, old, back, rfl, hid, ?_⟩
      rw [replaceFirst, if_neg hx, hput, Option.map_some, List.cons_append]

theorem add_cases (r : Route) (t : Table) :
    (r.id ∉ t.ids ∧ t.add r = t ++ [r]) ∨
      ∃ front old back, t = front ++ old :: back ∧ old.id = r.id ∧ t.add r = front ++ r :: back := by
  by_cases h : r.id ∈ t.ids
  · obtain ⟨front, old, back, ht, hid, hput⟩ := replaceFirst_of_mem h
    exact .inr ⟨front, old, back, ht, hid, by rw [add, hput, Option.getD_some]⟩
  · exact .inl ⟨h, by rw [add, replaceFirst_of_not_mem h, Option.getD_none]⟩

/-- Nothing comes into a table but what is put there. -/
theorem mem_add {x : Route} (h : x ∈ t.add r) : x = r ∨ x ∈ t := by
  rcases add_cases r t with ⟨-, hadd⟩ | ⟨front, old, back, rfl, -, hadd⟩
  · rw [hadd, List.mem_append, List.mem_singleton] at h
    exact h.symm
  · rw [hadd, List.mem_append, List.mem_cons] at h
    rw [List.mem_append, List.mem_cons]
    rcases h with hfront | rfl | hback
    · exact .inr (.inl hfront)
    · exact .inl rfl
    · exact .inr (.inr (.inr hback))

/-! ### The ids -/

theorem ids_append (front back : Table) : ids (front ++ back) = ids front ++ ids back :=
  List.map_append

theorem ids_add (r : Route) (t : Table) :
    (t.add r).ids = if r.id ∈ t.ids then t.ids else t.ids ++ [r.id] := by
  rcases add_cases r t with ⟨hnew, hadd⟩ | ⟨front, old, back, rfl, hid, hadd⟩
  · rw [hadd, if_neg hnew, ids_append]
    rfl
  · have hmem : r.id ∈ ids (front ++ old :: back) := by simp [ids, hid]
    rw [hadd, if_pos hmem, ids_append, ids_append]
    simp only [ids, List.map_cons, hid]

theorem ids_remove (t : Table) (id : String) : (t.remove id).2.ids = t.ids.filter (· ≠ id) := by
  simp only [remove, ids, List.filter_map]
  rfl

theorem remove_fst_iff : (t.remove id).1 = true ↔ id ∈ t.ids := by
  simp [remove, hasId, ids]

theorem nodup_edit {e : Edit} (he : e.Distinct) (ht : t.ids.Nodup) : (t.edit e).ids.Nodup := by
  cases e with
  | add r =>
    change (t.add r).ids.Nodup
    rw [ids_add]
    split
    · exact ht
    · next hnew =>
      refine List.nodup_append.mpr ⟨ht, List.pairwise_singleton _ _, fun a ha b hb hab => ?_⟩
      rw [hab, List.mem_singleton.mp hb] at ha
      exact hnew ha
  | remove id =>
    change (t.remove id).2.ids.Nodup
    rw [ids_remove]
    exact ht.filter _
  | replace t' => exact he

theorem nodup_editAll {edits : List Edit} (hedits : ∀ e ∈ edits, e.Distinct) (ht : t.ids.Nodup) :
    (t.editAll edits).ids.Nodup := by
  induction edits generalizing t with
  | nil => exact ht
  | cons e rest ih =>
    obtain ⟨he, hrest⟩ := List.forall_mem_cons.mp hedits
    exact ih hrest (nodup_edit he ht)

/-! ### The order of what is left -/

theorem sublist_edit_ids (t : Table) (e : Edit) :
    (t.ids.filter e.keepsPlace).Sublist (t.edit e).ids := by
  cases e with
  | add r =>
    change (t.ids.filter _).Sublist (t.add r).ids
    rw [ids_add]
    split
    · exact List.filter_sublist
    · exact List.filter_sublist.trans (List.sublist_append_left _ _)
  | remove id =>
    change (t.ids.filter _).Sublist (t.remove id).2.ids
    rw [ids_remove]
    exact List.Sublist.refl _
  | replace t' =>
    have hnone : t.ids.filter (Edit.replace t').keepsPlace = [] :=
      List.filter_eq_nil_iff.mpr fun _ _ => Bool.false_ne_true
    exact hnone ▸ List.nil_sublist _

theorem sublist_edit (t : Table) (e : Edit) :
    (List.filter (fun r => e.keeps r.id) t).Sublist (t.edit e) := by
  cases e with
  | add r =>
    change (List.filter (fun x => x.id ≠ r.id) t).Sublist (t.add r)
    rcases add_cases r t with ⟨_, hadd⟩ | ⟨front, old, back, rfl, hid, hadd⟩
    · rw [hadd]
      exact List.filter_sublist.trans (List.sublist_append_left _ _)
    · rw [hadd, List.filter_append, List.filter_cons_of_neg (by simpa using hid)]
      exact List.filter_sublist.append (List.filter_sublist.trans (List.sublist_cons_self _ _))
  | remove id => exact List.Sublist.refl _
  | replace t' =>
    have hnone : List.filter (fun r => (Edit.replace t').keeps r.id) t = [] :=
      List.filter_eq_nil_iff.mpr fun _ _ => Bool.false_ne_true
    exact hnone ▸ List.nil_sublist _

/-- What every change leaves in order is left in order by many of them. -/
theorem sublist_editAll {α : Type} (view : Table → List α) (stays : Edit → α → Bool)
    (hstep : ∀ t e, ((view t).filter (stays e)).Sublist (view (t.edit e)))
    (t : Table) (edits : List Edit) :
    ((view t).filter fun x => edits.all (stays · x)).Sublist (view (t.editAll edits)) := by
  induction edits generalizing t with
  | nil => exact List.filter_sublist
  | cons e rest ih =>
    have hsplit : ((view t).filter fun x => (e :: rest).all (stays · x)) =
        ((view t).filter (stays e)).filter fun x => rest.all (stays · x) := by
      rw [List.filter_filter]
      refine List.filter_congr fun x _ => ?_
      rw [List.all_cons, Bool.and_comm]
    rw [hsplit]
    exact ((hstep t e).filter _).trans (ih (t.edit e))

/-! ### Who answers for a path -/

theorem find?_eq_some_iff :
    t.find? path = some r ↔
      ∃ front back, t = front ++ r :: back ∧ r.Covers path ∧ ∀ x ∈ front, ¬ x.Covers path := by
  simp only [find?, List.find?_eq_some_iff_append, ← serves_iff_covers, Bool.not_eq_true',
    Bool.not_eq_true]
  constructor
  · rintro ⟨hr, front, back, ht, hfront⟩
    exact ⟨front, back, ht, hr, hfront⟩
  · rintro ⟨front, back, ht, hr, hfront⟩
    exact ⟨hr, front, back, ht, hfront⟩

theorem find?_eq_none_iff : t.find? path = none ↔ ∀ x ∈ t, ¬ x.Covers path := by
  simp only [find?, List.find?_eq_none, ← serves_iff_covers]

theorem find?_append (front back : Table) :
    find? (front ++ back) path = (find? front path).or (find? back path) :=
  List.find?_append

theorem find?_cons (r : Route) (t : Table) :
    find? (r :: t) path = if r.serves path then some r else t.find? path := by
  rw [find?, List.find?_cons]
  cases r.serves path <;> rfl

/-- A route with a new id only gets the paths that had no route. -/
theorem find?_add_of_new (hnew : r.id ∉ t.ids) :
    (t.add r).find? path = (t.find? path).or (find? [r] path) := by
  rw [add, replaceFirst_of_not_mem hnew, Option.getD_none, find?_append]

/-- A route that takes the place of another one changes the answer only for the paths that had the
other one and for those that it covers itself. -/
theorem find?_add_of_old (hold : r.id ∈ t.ids)
    (hchange : (t.add r).find? path ≠ t.find? path) :
    (∃ old, old.id = r.id ∧ t.find? path = some old) ∨ r.Covers path := by
  rcases add_cases r t with ⟨hnew, _⟩ | ⟨front, old, back, rfl, hid, hadd⟩
  · exact absurd hold hnew
  · rw [hadd, find?_append, find?_append, find?_cons, find?_cons] at hchange
    by_cases hr : r.serves path
    · exact .inr (serves_iff_covers.mp hr)
    by_cases ho : old.serves path
    · cases hfront : find? front path with
      | some x =>
        rw [hfront, Option.some_or, Option.some_or] at hchange
        exact absurd rfl hchange
      | none =>
        refine .inl ⟨old, hid, ?_⟩
        rw [find?_append, hfront, find?_cons, if_pos ho, Option.none_or]
    · rw [if_neg hr, if_neg ho] at hchange
      exact absurd rfl hchange

/-- Taking a route out changes the answer only for the paths that had it. -/
theorem find?_remove (hchange : (t.remove id).2.find? path ≠ t.find? path) :
    ∃ old, old.id = id ∧ t.find? path = some old := by
  cases hfind : t.find? path with
  | none =>
    refine absurd ?_ hchange
    rw [hfind, find?_eq_none_iff]
    exact fun x hx => find?_eq_none_iff.mp hfind x (List.mem_filter.mp hx).1
  | some old =>
    refine ⟨old, Classical.not_not.mp fun hid => hchange ?_, rfl⟩
    -- The route that answered is still there, and no other one has come to stand in front of it.
    obtain ⟨front, back, rfl, hcovers, hfront⟩ := find?_eq_some_iff.mp hfind
    rw [hfind, find?_eq_some_iff]
    refine ⟨front.filter (·.id ≠ id), back.filter (·.id ≠ id), ?_, hcovers, ?_⟩
    · rw [remove, List.filter_append, List.filter_cons_of_pos (by simpa using hid)]
    · exact fun x hx => hfront x (List.mem_filter.mp hx).1

/-- A table with distinct ids, changed any number of times.

Its ids are distinct. Whatever is done to it later, the ids that stay in their place are in the same
order as before, and so are the routes that stay as they are. The first route in its order that
covers a path answers for the path, and no route does only if none covers it. One change more leaves
all other answers as they are: a route with a new id only gets paths that had no route; a route with
an id that is there only touches the paths of the route in whose place it comes, and its own ones;
taking out an id only touches the paths of the route that had it. It is told truly whether the id
was there. -/
theorem edits_stay_local (t : Table) (edits : List Edit) (ht : t.ids.Nodup)
    (hedits : ∀ e ∈ edits, e.Distinct) :
    let now := t.editAll edits
    now.ids.Nodup ∧
      (∀ later : List Edit,
        (now.ids.filter fun id => later.all (·.keepsPlace id)).Sublist (now.editAll later).ids ∧
        (List.filter (fun r => later.all (·.keeps r.id)) now).Sublist (now.editAll later)) ∧
      (∀ path, (∀ r, now.find? path = some r ↔
          ∃ front back, now = front ++ r :: back ∧ r.Covers path ∧ ∀ x ∈ front, ¬ x.Covers path) ∧
        (now.find? path = none ↔ ∀ x ∈ now, ¬ x.Covers path)) ∧
      (∀ (r : Route) path, (now.add r).find? path ≠ now.find? path →
        if r.id ∈ now.ids then
          (∃ old, old.id = r.id ∧ now.find? path = some old) ∨ r.Covers path
        else now.find? path = none) ∧
      (∀ id path, (now.remove id).2.find? path ≠ now.find? path →
        ∃ old, old.id = id ∧ now.find? path = some old) ∧
      ∀ id, (now.remove id).1 = true ↔ id ∈ now.ids := by
  intro now
  refine ⟨nodup_editAll hedits ht, fun later => ?_, fun path => ?_, fun r path hchange => ?_,
    fun id path => find?_remove, fun id => remove_fst_iff⟩
  · exact ⟨sublist_editAll ids Edit.keepsPlace sublist_edit_ids now later,
      sublist_editAll (fun t => t) (fun e r => e.keeps r.id) sublist_edit now later⟩
  · exact ⟨fun r => find?_eq_some_iff, find?_eq_none_iff⟩
  · split
    · next hold => exact find?_add_of_old hold hchange
    · next hnew =>
      cases hfind : now.find? path with
      | none => rfl
      | some x =>
        rw [find?_add_of_new hnew, hfind, Option.some_or] at hchange
        exact absurd rfl hchange

/-- A broad route that is taken out and put back comes behind the narrow one that it had in front of
it, and gives way to it. -/
theorem edits_stay_local_broad_put_back :
    let route (id path : String) : Route :=
      { id, path, balancing := .roundRobin, gray := none, filters := [], resilient := false
        instances := [] }
    let t : Table := [route "orders" "/orders"]
    let both : Edit := .replace [route "broad" "/api", route "narrow" "/api/users"]
    let edits : List Edit :=
      [both, .add (route "users" "/users"), .remove "broad", .add (route "broad" "/api"),
        .add (route "users" "/people")]
    let path := "/api/users/1".toList
    t.ids.Nodup ∧ (∀ e ∈ edits, e.Distinct) ∧ both ∈ edits ∧
      ((t.edit both).find? path).map (·.id) = some "broad" ∧
      ((t.editAll edits).find? path).map (·.id) = some "narrow" ∧
      (t.editAll edits).ids = ["narrow", "users", "broad"] ∧ (t.editAll edits).ids.Nodup := by
  intro route t both edits path
  have ht : t.ids.Nodup := by decide +kernel
  have hedits : ∀ e ∈ edits, e.Distinct := by decide +kernel
  exact ⟨ht, hedits, List.mem_cons_self, by decide +kernel, by decide +kernel, by decide +kernel,
    (edits_stay_local t edits ht hedits).1⟩

end Table

end HttpGateway.Route
