/-
Texts as values of fields, and fields that are dropped.

* **IsPrintable**, **IsReadable** — the characters that a value may hold, and those of them that it
  is read back with.
* `ofText?_of_printable` — a text of such characters is the value of a field.
* `text?_utf8`, `readable_of_text?` — the values that are read as texts are the texts of readable
  characters.
* `getAll_eraseAll_of_mem`, `getAll_eraseAll_other` — of fields that are dropped nothing is left, and
  the others are as they were.
-/
import HttpGateway.Http.Hop

namespace HttpGateway.Http

open Text

/-- Whether a value may hold a character: it is no control character, or it is the tab. -/
def IsPrintable (c : Char) : Prop := 0x20 ≤ c.toNat ∧ c.toNat ≠ 0x7f ∨ c.toNat = 0x09

/-- Whether a value that holds a character is read back as a text. -/
def IsReadable (c : Char) : Prop := 0x20 ≤ c.toNat ∧ c.toNat ≤ 0x7e ∨ c.toNat = 0x09

instance : DecidablePred IsPrintable := fun _ => inferInstanceAs (Decidable (_ ∨ _))

instance : DecidablePred IsReadable := fun _ => inferInstanceAs (Decidable (_ ∨ _))

variable {c : Char} {s t : List Char} {v : FieldValue}

theorem IsReadable.printable (h : IsReadable c) : IsPrintable c := by
  unfold IsReadable at h
  unfold IsPrintable
  omega

/-! ### Bytes of a character -/

theorem utf8EncodeChar_ascii (h : c.toNat ≤ 0x7f) :
    String.utf8EncodeChar c = [UInt8.ofNat c.toNat] :=
  if_pos h

/-- All bytes of a character beyond ASCII are beyond ASCII. -/
theorem le_of_mem_utf8EncodeChar (h : 0x80 ≤ c.toNat) {b : UInt8}
    (hb : b ∈ String.utf8EncodeChar c) : 0x80 ≤ b.toNat := by
  have hbyte : ∀ n m : Nat, n < 0x80 → 0x80 ≤ m → m ≤ 0xf0 →
      n + m < 256 → 0x80 ≤ (UInt8.ofNat (n + m)).toNat := by
    intro n m _ _ _ hlt
    rw [UInt8.toNat_ofNat', Nat.mod_eq_of_lt hlt]
    omega
  have hlarge : ¬ c.val.toNat ≤ 0x7f := Nat.not_le.mpr h
  simp only [String.utf8EncodeChar, hlarge, if_false] at hb
  split at hb
  · simp only [List.mem_cons, List.not_mem_nil, or_false] at hb
    rcases hb with rfl | rfl <;> exact hbyte _ _ (by omega) (by omega) (by omega) (by omega)
  split at hb
  · simp only [List.mem_cons, List.not_mem_nil, or_false] at hb
    rcases hb with rfl | rfl | rfl <;>
      exact hbyte _ _ (by omega) (by omega) (by omega) (by omega)
  · simp only [List.mem_cons, List.not_mem_nil, or_false] at hb
    rcases hb with rfl | rfl | rfl | rfl <;>
      exact hbyte _ _ (by omega) (by omega) (by omega) (by omega)

namespace FieldValue

theorem isAllowed_iff {b : UInt8} :
    isAllowed b = true ↔ 0x20 ≤ b.toNat ∧ b.toNat ≠ 0x7f ∨ b.toNat = 0x09 := by
  simp [isAllowed, UInt8.le_iff_toNat_le, ← UInt8.toNat_inj]

theorem isVisible_iff {b : UInt8} :
    isVisible b = true ↔ 0x20 ≤ b.toNat ∧ b.toNat ≤ 0x7e ∨ b.toNat = 0x09 := by
  simp [isVisible, UInt8.le_iff_toNat_le, ← UInt8.toNat_inj]

theorem isAllowed_of_mem (h : IsPrintable c) {b : UInt8} (hb : b ∈ String.utf8EncodeChar c) :
    isAllowed b = true := by
  rw [isAllowed_iff]
  by_cases hascii : c.toNat ≤ 0x7f
  · rw [utf8EncodeChar_ascii hascii, List.mem_singleton] at hb
    rw [hb, UInt8.toNat_ofNat', Nat.mod_eq_of_lt (by omega)]
    exact h
  · have hle := le_of_mem_utf8EncodeChar (Nat.not_le.mp hascii) hb
    omega

/-! ### Values that are texts -/

theorem ofText?_of_printable (h : ∀ c ∈ s, IsPrintable c) :
    ofText? (String.ofList s) = some (utf8 s) := by
  have hall : (utf8 s).all isAllowed = true := by
    rw [List.all_eq_true]
    intro b hb
    obtain ⟨c, hc, hb⟩ := List.mem_flatMap.mp hb
    exact isAllowed_of_mem (h c hc) hb
  rw [ofText?, String.toList_ofList]
  exact if_pos hall

theorem eq_utf8_of_ofText? {text : String} (h : ofText? text = some v) : v = utf8 text.toList := by
  rw [ofText?] at h
  split at h
  · exact (Option.some.inj h).symm
  · simp at h

/-- A text of ASCII characters as a value has one byte for each. -/
theorem utf8_ascii (h : ∀ c ∈ s, c.toNat ≤ 0x7f) :
    utf8 s = s.map fun c => UInt8.ofNat c.toNat := by
  induction s with
  | nil => rfl
  | cons c rest ih =>
    obtain ⟨hc, hrest⟩ := List.forall_mem_cons.mp h
    rw [utf8, List.flatMap_cons, utf8EncodeChar_ascii hc, ← utf8, ih hrest]
    rfl

/-- A text of readable characters is read back. -/
theorem text?_utf8 (h : ∀ c ∈ s, IsReadable c) : text? (utf8 s) = some (String.ofList s) := by
  have hascii : ∀ c ∈ s, c.toNat ≤ 0x7f := by
    intro c hc
    have hreadable := h c hc
    unfold IsReadable at hreadable
    omega
  have hbyte : ∀ c ∈ s, (UInt8.ofNat c.toNat).toNat = c.toNat := by
    intro c hc
    have hle := hascii c hc
    rw [UInt8.toNat_ofNat', Nat.mod_eq_of_lt (by omega)]
  have hvisible : (s.map fun c => UInt8.ofNat c.toNat).all isVisible = true := by
    rw [List.all_map, List.all_eq_true]
    intro c hc
    rw [Function.comp_apply, isVisible_iff, hbyte c hc]
    exact h c hc
  -- Each character has one byte, so that the bytes are read back one by one.
  rw [utf8_ascii hascii, text?, if_pos hvisible, List.map_map]
  congr 2
  refine (List.map_congr_left fun c hc => ?_).trans (List.map_id s)
  rw [Function.comp_apply, hbyte c hc]
  exact Char.ofNat_toNat c

/-- A value that is read as a text has readable characters only. -/
theorem readable_of_text? {text : String} (h : text? v = some text) :
    ∀ c ∈ text.toList, IsReadable c := by
  rw [text?] at h
  split at h
  · next hvisible =>
    rw [← Option.some.inj h, String.toList_ofList]
    intro c hc
    obtain ⟨b, hb, rfl⟩ := List.mem_map.mp hc
    have hrange := isVisible_iff.mp (List.all_eq_true.mp hvisible b hb)
    have hvalid : b.toNat.isValidChar := .inl (by omega)
    have hcode : (Char.ofNat b.toNat).toNat = b.toNat := by
      rw [Char.ofNat, dif_pos hvalid]
      rfl
    rw [IsReadable, hcode]
    exact hrange
  · simp at h

end FieldValue

/-! ### Fields that are dropped -/

namespace Fields

theorem getAll_eraseAll_other (h : Fields) {names : List String} {name : String}
    (hn : name ∉ names) : (h.eraseAll names).getAll name = h.getAll name := by
  unfold eraseAll
  induction names generalizing h with
  | nil => rfl
  | cons other rest ih =>
    obtain ⟨hne, hrest⟩ := List.ne_and_not_mem_of_not_mem_cons hn
    rw [List.foldl_cons, ih (h.erase other) hrest, getAll_erase_other h (Ne.symm hne)]

/-- What has no line gets none when others are dropped. -/
theorem getAll_erase_nil {h : Fields} {name : String} (hnone : h.getAll name = [])
    (other : String) : (h.erase other).getAll name = [] := by
  by_cases hname : other = name
  · rw [hname, getAll_erase_self]
  · rw [getAll_erase_other h hname, hnone]

theorem getAll_eraseAll_nil {h : Fields} {name : String} (hnone : h.getAll name = [])
    (names : List String) : (h.eraseAll names).getAll name = [] := by
  unfold eraseAll
  induction names generalizing h with
  | nil => exact hnone
  | cons other rest ih =>
    rw [List.foldl_cons]
    exact ih (getAll_erase_nil hnone other)

theorem getAll_eraseAll_of_mem (h : Fields) {names : List String} {name : String}
    (hn : name ∈ names) : (h.eraseAll names).getAll name = [] := by
  -- After its own turn the field has no line, and no later turn brings one back.
  obtain ⟨before, after, rfl⟩ := List.append_of_mem hn
  rw [eraseAll, List.foldl_append, List.foldl_cons]
  exact getAll_eraseAll_nil (getAll_erase_self ..) after

end Fields

/-- Whether the message names a field in a `Connection` line that is a text: one of the entries
between commas is the name of the field, whatever its case. -/
def NamedByConnection (h : Fields) (name : String) : Prop :=
  ∃ line ∈ h.getAll "connection", ∃ text, line.text? = some text ∧
    ∃ entry ∈ commaEntries text, fieldName? entry = some name

theorem mem_namedByConnection {h : Fields} {name : String} :
    name ∈ namedByConnection h ↔ NamedByConnection h name := by
  rw [namedByConnection, List.mem_flatMap]
  refine exists_congr fun line => and_congr_right fun _ => ?_
  rw [namesInLine]
  cases line.text? with
  | none => simp
  | some text => simp [List.mem_filterMap]

instance (h : Fields) (name : String) : Decidable (NamedByConnection h name) :=
  decidable_of_iff _ mem_namedByConnection

/-- What is left of a field: nothing if it concerns one connection only, and else all of it. -/
theorem getAll_stripHop (h : Fields) (name : String) :
    (name ∈ hopNames ∨ NamedByConnection h name → (stripHop h).getAll name = []) ∧
      (name ∉ hopNames → ¬ NamedByConnection h name →
        (stripHop h).getAll name = h.getAll name) := by
  constructor
  · rintro (hhop | hnamed)
    · exact Fields.getAll_eraseAll_of_mem _ hhop
    · refine Fields.getAll_eraseAll_nil ?_ hopNames
      exact Fields.getAll_eraseAll_of_mem h (mem_namedByConnection.mpr hnamed)
  · intro hhop hnamed
    rw [stripHop, Fields.getAll_eraseAll_other _ hhop,
      Fields.getAll_eraseAll_other h fun hmem => hnamed (mem_namedByConnection.mp hmem)]

end HttpGateway.Http
