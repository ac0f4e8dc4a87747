/-
The characters of numbers and addresses.

* `of_mem_intercalate` — texts with a separator between them have no other characters.
* `of_mem_digitsOnto` — the digits of a number are digits of its radix.
* `of_mem_ipText` — an address is written in hexadecimal digits, points and colons.
-/
import HttpGateway.Net.Address

namespace HttpGateway.Text

/-- What holds of the characters of a text is decided one by one. -/
theorem forall_mem_of_all {p : Char → Prop} [DecidablePred p] {s : List Char}
    (h : (s.all fun c => p c) = true) : ∀ c ∈ s, p c := fun c hc =>
  of_decide_eq_true (List.all_eq_true.mp h c hc)

/-! ### Digits -/

/-- The digits of a number are read as the number. -/
theorem foldl_digitsOnto (n : Nat) (rest : List Char) :
    (digitsOnto 10 n rest).foldl
        (fun acc c => acc.bind fun m => (digitIn? 10 c).map (m * 10 + ·)) (some 0)
      = rest.foldl (fun acc c => acc.bind fun m => (digitIn? 10 c).map (m * 10 + ·)) (some n) := by
  have hdigit : ∀ d < 10, digitIn? 10 (hexDigit d) = some d := by decide
  induction n using Nat.strongRecOn generalizing rest with
  | ind n ih =>
    rw [digitsOnto]
    split
    · next hlast =>
      rw [List.foldl_cons, Option.bind_some, hdigit n (by omega), Option.map_some]
      simp
    · next hmore =>
      rw [ih (n / 10) (by omega), List.foldl_cons, Option.bind_some,
        hdigit (n % 10) (Nat.mod_lt _ (by decide)), Option.map_some, Nat.div_add_mod']

theorem digitsOnto_ne_nil (radix n : Nat) (rest : List Char) : digitsOnto radix n rest ≠ [] := by
  induction n using Nat.strongRecOn generalizing rest with
  | ind n ih =>
    rw [digitsOnto]
    split
    · exact List.cons_ne_nil _ _
    · exact ih _ (Nat.div_lt_self (by omega) (by omega)) _

/-- A text in which some character is no digit is no number. -/
theorem ofDigits?_eq_none {radix : Nat} {c : Char} {s : List Char} (hc : c ∈ s)
    (hdigit : digitIn? radix c = none) : ofDigits? radix s = none := by
  obtain ⟨front, rest, rfl⟩ := List.append_of_mem hc
  have hnone : ∀ s : List Char, s.foldl (fun acc c => acc.bind fun n =>
      (digitIn? radix c).map (n * radix + ·)) none = none := fun s => by
    induction s with
    | nil => rfl
    | cons d s ih => exact ih
  rw [ofDigits?, List.foldl_append, List.foldl_cons, hdigit]
  cases List.foldl _ (some 0) front with
  | none => exact hnone rest
  | some n => exact hnone rest

/-- Nor is such a text a number with a sign in front. -/
theorem unsigned?_eq_none {bound : Nat} {c : Char} {s : List Char} (hc : c ∈ s)
    (hdigit : digitIn? 10 c = none) (hplus : c ≠ '+') : unsigned? bound s = none := by
  unfold unsigned?
  dsimp only
  split
  · next rest =>
    have hrest : c ∈ rest := (List.mem_cons.mp hc).resolve_left hplus
    rw [ofDigits?_eq_none hrest hdigit]
    split <;> rfl
  · rw [ofDigits?_eq_none hc hdigit]
    split <;> rfl

/-- A number that is written in decimal digits is read back. -/
theorem unsigned?_decimal {n bound : Nat} (h : n < bound) :
    unsigned? bound (decimal n) = some n := by
  have hnumber : (ofDigits? 10 (decimal n)).filter (· < bound) = some n := by
    rw [show ofDigits? 10 (decimal n) = some n from foldl_digitsOnto n []]
    simp [h]
  have hplus : ∀ rest, decimal n ≠ '+' :: rest := fun rest heq => by
    have hmem : '+' ∈ decimal n := heq ▸ List.mem_cons_self
    have hnone : ofDigits? 10 (decimal n) = none := ofDigits?_eq_none hmem (by decide)
    simp [hnone] at hnumber
  unfold unsigned?
  dsimp only
  split
  · next rest heq => exact absurd heq (hplus rest)
  · rw [if_neg (by simpa [decimal] using digitsOnto_ne_nil 10 n []), hnumber]

/-- Texts with a separator between them have no other characters. -/
theorem of_mem_intercalate {sep c : Char} {texts : List (List Char)}
    (h : c ∈ [sep].intercalate texts) : c = sep ∨ ∃ text ∈ texts, c ∈ text := by
  induction texts with
  | nil => simp at h
  | cons text rest ih =>
    cases rest with
    | nil => exact .inr ⟨text, List.mem_cons_self, by simpa using h⟩
    | cons other rest =>
      rw [List.intercalate_cons_cons, List.append_assoc, List.singleton_append] at h
      rcases List.mem_append.mp h with h | h
      · exact .inr ⟨text, List.mem_cons_self, h⟩
      rcases List.mem_cons.mp h with rfl | h
      · exact .inl rfl
      · obtain hsep | ⟨found, hfound, hc⟩ := ih h
        · exact .inl hsep
        · exact .inr ⟨found, List.mem_cons_of_mem _ hfound, hc⟩

end HttpGateway.Text

namespace HttpGateway.Net

open Text

/-- The digits up to sixteen, in lower case. -/
def hexDigits : List Char := "0123456789abcdef".toList

variable {c : Char} {radix : Nat}

theorem hexDigit_mem {d : Nat} (h : d < 16) : hexDigit d ∈ hexDigits :=
  (by decide : ∀ d < 16, hexDigit d ∈ hexDigits) d h

theorem of_mem_digitsOnto (hradix : 2 ≤ radix) (hle : radix ≤ 16) (n : Nat) (rest : List Char)
    (h : c ∈ digitsOnto radix n rest) : c ∈ hexDigits ∨ c ∈ rest := by
  induction n using Nat.strongRecOn generalizing rest with
  | ind n ih =>
    rw [digitsOnto] at h
    split at h
    · next hlast =>
      rcases List.mem_cons.mp h with rfl | h
      · exact .inl (hexDigit_mem (by omega))
      · exact .inr h
    · next hmore =>
      have hsmaller : n / radix < n := Nat.div_lt_self (by omega) (by omega)
      rcases ih _ hsmaller _ h with h | h
      · exact .inl h
      · rcases List.mem_cons.mp h with rfl | h
        · have hlt : n % radix < radix := Nat.mod_lt _ (by omega)
          exact .inl (hexDigit_mem (by omega))
        · exact .inr h

theorem of_mem_joinNumbers (hradix : 2 ≤ radix) (hle : radix ≤ 16) {sep : Char} {ns : List Nat}
    (h : c ∈ joinNumbers sep radix ns) : c ∈ hexDigits ∨ c = sep := by
  rcases of_mem_intercalate h with hsep | ⟨text, htext, hc⟩
  · exact .inr hsep
  · obtain ⟨n, -, rfl⟩ := List.mem_map.mp htext
    exact .inl ((of_mem_digitsOnto hradix hle n [] hc).resolve_right List.not_mem_nil)

/-- Two numbers have a separator between them. -/
theorem joinNumbers_ne_nil {sep : Char} {radix : Nat} {ns : List Nat} (hns : 2 ≤ ns.length) :
    joinNumbers sep radix ns ≠ [] := by
  match ns, hns with
  | n :: m :: rest, _ =>
    rw [joinNumbers, List.map_cons, List.map_cons, List.intercalate_cons_cons]
    simp

/-- The characters in which addresses are written. -/
def addressChars : List Char := hexDigits ++ ['.', ':']

theorem of_mem_octetsText {octets : List Nat} (h : c ∈ octetsText octets) : c ∈ addressChars := by
  rcases of_mem_joinNumbers (by decide) (by decide) h with h | rfl
  · exact List.mem_append_left _ h
  · decide

theorem of_mem_groupsText {groups : List Nat} (h : c ∈ groupsText groups) : c ∈ addressChars := by
  have hgroups : ∀ gs, c ∈ joinNumbers ':' 16 gs → c ∈ addressChars := by
    intro gs hgs
    rcases of_mem_joinNumbers (by decide) (by decide) hgs with h | rfl
    · exact List.mem_append_left _ h
    · decide
  have hcolons : ∀ d ∈ "::".toList, d ∈ addressChars := forall_mem_of_all (by decide)
  unfold groupsText at h
  split at h
  · exact hgroups _ h
  · rcases List.mem_append.mp h with h | h
    · rcases List.mem_append.mp h with h | h
      · exact hgroups _ h
      · exact hcolons c h
    · exact hgroups _ h

theorem of_mem_ipText {ip : IpAddress} (h : c ∈ ip.text) : c ∈ addressChars := by
  have hmapped : ∀ d ∈ "::ffff:".toList, d ∈ addressChars := forall_mem_of_all (by decide)
  cases ip with
  | v4 octets => exact of_mem_octetsText h
  | v6 groups =>
    rw [IpAddress.text.eq_def] at h
    dsimp only at h
    split at h
    · rcases List.mem_append.mp h with h | h
      · exact hmapped c h
      · exact of_mem_octetsText h
    · exact of_mem_groupsText h

end HttpGateway.Net
