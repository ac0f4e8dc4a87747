/-
White space at the ends of a text.

* **isBlank** — the Unicode property White_Space.
* **trim** — a text without the white space at both its ends; `trim_ends` says that what is left
  neither starts nor ends with white space.
-/
namespace HttpGateway.Text

/-- The characters with the Unicode property White_Space. -/
def isBlank (c : Char) : Bool :=
  let n := c.toNat
  (9 ≤ n && n ≤ 13) || n == 0x20 || n == 0x85 || n == 0xA0 || n == 0x1680 ||
    (0x2000 ≤ n && n ≤ 0x200A) || n == 0x2028 || n == 0x2029 || n == 0x202F || n == 0x205F ||
    n == 0x3000

/-- `s` without its leading characters that satisfy `p`. -/
def trimStart (p : Char → Bool) (s : List Char) : List Char :=
  s.dropWhile p

/-- `s` without its trailing characters that satisfy `p`. -/
def trimEnd (p : Char → Bool) : List Char → List Char
  | [] => []
  | c :: r =>
    match trimEnd p r with
    | [] => if p c then [] else [c]
    | r' => c :: r'

/-- `s` without the white space at both its ends. -/
def trim (s : List Char) : List Char :=
  trimEnd isBlank (trimStart isBlank s)

theorem trimEnd_eq_nil {p : Char → Bool} {s : List Char} :
    trimEnd p s = [] ↔ ∀ c ∈ s, p c = true := by
  induction s with
  | nil => simp [trimEnd]
  | cons c r ih =>
    unfold trimEnd
    split
    · next h => by_cases hc : p c <;> simp_all
    · next h => simp_all

/-- What is cut off at the end satisfies the test, and nothing else is lost. -/
theorem trimEnd_append (p : Char → Bool) (s : List Char) :
    ∃ t, s = trimEnd p s ++ t ∧ ∀ c ∈ t, p c = true := by
  induction s with
  | nil => exact ⟨[], by simp [trimEnd]⟩
  | cons c r ih =>
    obtain ⟨t, ht, hp⟩ := ih
    unfold trimEnd
    split
    · next h =>
      rw [h, List.nil_append] at ht
      by_cases hc : p c
      · exact ⟨c :: r, by simp [hc], by simp_all⟩
      · exact ⟨r, by simp [hc], by simp_all⟩
    · exact ⟨t, by rw [List.cons_append, ← ht], hp⟩

/-- What is left does not end with a character that satisfies the test. -/
theorem getLast?_trimEnd {p : Char → Bool} {s : List Char} {c : Char}
    (h : (trimEnd p s).getLast? = some c) : p c = false := by
  induction s with
  | nil => simp [trimEnd] at h
  | cons d r ih =>
    unfold trimEnd at h
    split at h
    · by_cases hd : p d <;> simp_all
    · next hne =>
      rw [List.getLast?_cons_of_ne_nil (by simpa using hne)] at h
      exact ih h

/-- Where something is left, it starts as the text did. -/
theorem head?_trimEnd {p : Char → Bool} {s : List Char} {c : Char}
    (h : (trimEnd p s).head? = some c) : s.head? = some c := by
  obtain ⟨t, ht, -⟩ := trimEnd_append p s
  rw [ht, List.head?_append, h, Option.some_or]

/-- A trimmed text neither starts nor ends with white space. -/
theorem trim_ends {s : List Char} {c : Char}
    (h : (trim s).head? = some c ∨ (trim s).getLast? = some c) : isBlank c = false := by
  rcases h with h | h
  · have hc := head?_trimEnd h
    have hn := List.head?_dropWhile_not isBlank s
    rw [trimStart] at hc
    rw [hc] at hn
    simpa using hn
  · exact getLast?_trimEnd h

end HttpGateway.Text
