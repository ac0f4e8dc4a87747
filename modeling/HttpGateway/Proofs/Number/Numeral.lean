/-
Whole numbers written in digits and read as floating-point numbers.

* `length_decimal_le` — a number has no more digits than its bound has zeros.
* `readDecimal?_decimal` — a whole number below `2 ^ 53` is read back as it is.
-/
import HttpGateway.Number.Decimal
import HttpGateway.Proofs.Net.Address
import HttpGateway.Proofs.Number.Whole
import HttpGateway.Proofs.Text.Trimmed

namespace HttpGateway

open Text

variable {n k : Nat} {c : Char} {s : List Char}

namespace Text

theorem length_digitsOnto_le (h : n < 10 ^ (k + 1)) (rest : List Char) :
    (digitsOnto 10 n rest).length ≤ k + 1 + rest.length := by
  induction k generalizing n rest with
  | zero =>
    rw [digitsOnto, dif_pos (.inl (by simpa using h)), List.length_cons]
    omega
  | succ k ih =>
    rw [digitsOnto]
    split
    · rw [List.length_cons]
      omega
    · have hshorter := ih (Nat.div_lt_of_lt_mul (by rwa [← Nat.pow_succ']))
        (hexDigit (n % 10) :: rest)
      rw [List.length_cons] at hshorter
      omega

theorem length_decimal_le (h : n < 10 ^ (k + 1)) : (decimal n).length ≤ k + 1 :=
  length_digitsOnto_le h []

/-- The digits of a number have its value. -/
theorem ofDigits?_decimal (n : Nat) : ofDigits? 10 (decimal n) = some n := foldl_digitsOnto n []

/-- The digits of a number are neither white space nor signs, and no name of a number is made of
them. -/
theorem digit_of_mem_decimal (h : c ∈ decimal n) :
    Number.isDecimalDigit c = true ∧ isBlank c = false ∧ c ≠ '-' ∧ c ≠ '+' ∧ c.toLower ≠ 'n' := by
  have hhex : c ∈ Net.hexDigits :=
    (Net.of_mem_digitsOnto (by decide) (by decide) n [] h).resolve_right List.not_mem_nil
  have hten : digitIn? 10 c ≠ none := fun hnone => by
    simpa [ofDigits?_decimal n] using ofDigits?_eq_none h hnone
  have hall : ∀ c ∈ Net.hexDigits, digitIn? 10 c ≠ none → Number.isDecimalDigit c = true ∧
      isBlank c = false ∧ c ≠ '-' ∧ c ≠ '+' ∧ c.toLower ≠ 'n' :=
    forall_mem_of_all (by decide)
  exact hall c hhex hten

end Text

namespace Number

theorem takeSign_of_not_mem (hminus : '-' ∉ s) (hplus : '+' ∉ s) : takeSign s = (false, s) := by
  unfold takeSign
  split
  · exact absurd List.mem_cons_self hminus
  · exact absurd List.mem_cons_self hplus
  · rfl

theorem ofDecimal_whole (h : n < 2 ^ 53) : ofDecimal false n 0 = .finite n := by
  have hdigits : (decimal n).length ≤ 16 := length_decimal_le (h.trans (by decide))
  have hone : pow10 0 = 1 := by decide +kernel
  have hfew : ¬ (400 : Int) < 0 + (decimal n).length := by omega
  have hmany : ¬ 0 + ((decimal n).length : Int) < -400 := by omega
  simp only [ofDecimal, if_neg hfew, if_neg hmany, hone, mul_one, round_natCast h,
    Bool.false_eq_true, if_false]
  split
  · next hzero => rw [hzero, Nat.cast_zero]
  · rfl

/-- **A whole number is read back from its digits**, if it is below `2 ^ 53`. -/
theorem readDecimal?_decimal (h : n < 2 ^ 53) : readDecimal? (decimal n) = some (.finite n) := by
  have hdigit := fun c (hc : c ∈ decimal n) => digit_of_mem_decimal hc
  have hsign : takeSign (decimal n) = (false, decimal n) :=
    takeSign_of_not_mem (fun hc => (hdigit _ hc).2.2.1 rfl) fun hc => (hdigit _ hc).2.2.2.1 rfl
  have hname : ∀ name : List Char, 'n' ∈ name → (decimal n).map Char.toLower ≠ name := by
    rintro _ hn rfl
    obtain ⟨c, hc, hlower⟩ := List.mem_map.mp hn
    exact (hdigit c hc).2.2.2.2 hlower
  have hwhole : (decimal n).takeWhile isDecimalDigit = decimal n :=
    List.takeWhile_eq_self_iff.mpr fun c hc => (hdigit c hc).1
  have hrest : (decimal n).dropWhile isDecimalDigit = [] :=
    List.dropWhile_eq_nil_iff.mpr fun c hc => (hdigit c hc).1
  have hne : (decimal n).isEmpty = false := by
    simpa [decimal] using digitsOnto_ne_nil 10 n []
  simp only [readDecimal?, hsign, hname _ (by decide : 'n' ∈ "inf".toList),
    hname _ (by decide : 'n' ∈ "infinity".toList), hname _ (by decide : 'n' ∈ "nan".toList),
    hwhole, hrest, hne, false_or, if_false, Bool.false_and, Bool.false_eq_true, List.append_nil,
    ofDigits?_decimal, readExponent?]
  exact congrArg some (ofDecimal_whole h)

end Number

end HttpGateway
