/-
What is trimmed off a text.

* `isBlank_of_visible` — what can be seen is not white space.
* `trimEnd_append_eq`, `trimEnd_behind`, `trimEnd_eq_self` — what is cut off the end of texts that
  are put together, and where nothing is.
* `trim_eq_nil` — only of blank texts nothing is left.
* `trim_eq_iff` — what is left of a text is a given one without white space exactly if all that
  stands around that in the text is blank.
-/
import HttpGateway.Text.Blank
import Mathlib.Data.List.TakeWhile

namespace HttpGateway.Text

variable {p : Char → Bool} {c : Char} {s t before after : List Char}

/-- The visible characters of ASCII are no white space. -/
theorem isBlank_of_visible (hlow : 0x21 ≤ c.toNat) (hhigh : c.toNat ≤ 0x7e) :
    isBlank c = false := by
  simp only [isBlank, Bool.or_eq_false_iff, Bool.and_eq_false_iff, decide_eq_false_iff_not,
    beq_eq_false_iff_ne]
  omega

/-! ### The end of a text -/

theorem trimEnd_append_eq (p : Char → Bool) (s t : List Char) :
    trimEnd p (s ++ t) = if trimEnd p t = [] then trimEnd p s else s ++ trimEnd p t := by
  induction s with
  | nil =>
    split
    · next h => exact h
    · rfl
  | cons c rest ih =>
    rw [List.cons_append, trimEnd, ih]
    by_cases ht : trimEnd p t = []
    · rw [if_pos ht, if_pos ht, trimEnd]
    · rw [if_neg ht, if_neg ht]
      split
      · next h => simp_all
      · rfl

/-- What stands before a character that is not cut off is not cut off either. -/
theorem trimEnd_behind (s : List Char) (h : p c = false) (t : List Char) :
    trimEnd p (s ++ c :: t) = s ++ c :: trimEnd p t := by
  have hkept : trimEnd p (c :: t) = c :: trimEnd p t := by
    rw [trimEnd]
    split
    · next hnil => rw [hnil, if_neg (by simp [h])]
    · rfl
  rw [trimEnd_append_eq, hkept, if_neg (List.cons_ne_nil _ _)]

theorem trimEnd_eq_self (hs : ∀ c ∈ s, p c = false) : trimEnd p s = s := by
  obtain ⟨cut, heq, hcut⟩ := trimEnd_append p s
  cases cut with
  | nil => rw [List.append_nil] at heq; exact heq.symm
  | cons d rest =>
    have hd : d ∈ s := by
      rw [heq]
      exact List.mem_append_right _ List.mem_cons_self
    have hblank := hcut d List.mem_cons_self
    rw [hs d hd] at hblank
    exact absurd hblank Bool.false_ne_true

/-! ### Both ends -/

theorem trim_eq_nil : trim s = [] ↔ ∀ c ∈ s, isBlank c = true := by
  rw [trim, trimStart, trimEnd_eq_nil]
  constructor
  · intro hrest c hc
    rw [← List.takeWhile_append_dropWhile (p := isBlank) (l := s), List.mem_append] at hc
    rcases hc with hfront | hrear
    · exact List.all_eq_true.mp List.all_takeWhile c hfront
    · exact hrest c hrear
  · intro hall c hc
    exact hall c ((List.dropWhile_sublist _).mem hc)

/-- White space around a text that has none is all that is trimmed off. -/
theorem trim_around (hbefore : ∀ c ∈ before, isBlank c = true)
    (hafter : ∀ c ∈ after, isBlank c = true) (hs : ∀ c ∈ s, isBlank c = false) :
    trim (before ++ (s ++ after)) = s := by
  rw [trim, trimStart, List.dropWhile_append_of_pos hbefore]
  cases s with
  | nil =>
    rw [List.nil_append, List.dropWhile_eq_nil_iff.mpr hafter]
    rfl
  | cons c rest =>
    have hc : ¬ isBlank c = true := by simp [hs c List.mem_cons_self]
    rw [List.cons_append, List.dropWhile_cons_of_neg hc, ← List.cons_append, trimEnd_append_eq,
      if_pos (trimEnd_eq_nil.mpr hafter), trimEnd_eq_self hs]

theorem trim_append (ht : ∀ c ∈ t, isBlank c = true) (hs : ∀ c ∈ s, isBlank c = false) :
    trim (t ++ s) = s := by
  simpa using trim_around ht (List.forall_mem_nil _) hs

/-- A text without white space is left of another one exactly if that has nothing but white space
around it. -/
theorem trim_eq_iff (hs : ∀ c ∈ s, isBlank c = false) :
    trim t = s ↔ ∃ before after, t = before ++ (s ++ after) ∧
      (∀ c ∈ before, isBlank c = true) ∧ ∀ c ∈ after, isBlank c = true := by
  constructor
  · rintro rfl
    obtain ⟨after, hafter, hblank⟩ := trimEnd_append isBlank (trimStart isBlank t)
    refine ⟨t.takeWhile isBlank, after, ?_, List.all_eq_true.mp List.all_takeWhile, hblank⟩
    rw [trim, ← hafter]
    exact List.takeWhile_append_dropWhile.symm
  · rintro ⟨before, after, rfl, hbefore, hafter⟩
    exact trim_around hbefore hafter hs

end HttpGateway.Text
