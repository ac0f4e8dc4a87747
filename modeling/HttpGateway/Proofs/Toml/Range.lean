/-
Whole numbers of a configuration file.

* **Value.Fits** — every whole number in a value fits 64 bits with a sign, so that the value can be
  written down again.
* `fits_within` — what is put into a table that is being read is all that it has besides what was
  there.
* `fits_of_parse` — every value that is read fits.

A table that is not finished is known through the value that it would be if it were finished now:
`finishItems_eq_map` says that this is a table with the values of its items.
-/
import HttpGateway.Proofs.Keyed
import HttpGateway.Toml.Reader

namespace HttpGateway.Toml

/-- A value whose whole numbers fit 64 bits with a sign. -/
inductive Value.Fits : Value → Prop
  | text (s : String) : Fits (.text s)
  | float (x : Number.Floating) : Fits (.float x)
  | boolean (b : Bool) : Fits (.boolean b)
  | dateTime (d : DateTime) : Fits (.dateTime d)
  | integer {n : Int} (low : -9223372036854775808 ≤ n) (high : n ≤ 9223372036854775807) :
      Fits (.integer n)
  | array {elements : List Value} (h : ∀ v ∈ elements, Fits v) : Fits (.array elements)
  | table {entries : List (String × Value)} (h : ∀ e ∈ entries, Fits e.2) : Fits (.table entries)

namespace Value

theorem Fits.elements {vs : List Value} (h : (Value.array vs).Fits) : ∀ v ∈ vs, v.Fits := by
  cases h
  assumption

theorem Fits.entries {es : List (String × Value)} (h : (Value.table es).Fits) :
    ∀ e ∈ es, e.2.Fits := by
  cases h
  assumption

end Value

/-- What a reader reads fits. -/
def Fitting (read : Source → Option (Value × Source)) : Prop :=
  ∀ {s v r}, read s = some (v, r) → v.Fits

variable {s r : Source} {v : Value} {how : Descent}

/-! ### Numbers -/

theorem fits_of_integerOf? {negative : Bool} {n : Nat} (h : integerOf? negative n = some v) :
    v.Fits := by
  have hpower : Nat.pow 2 63 = 9223372036854775808 := rfl
  unfold integerOf? at h
  rw [hpower] at h
  cases negative with
  | false =>
    obtain ⟨hn, h⟩ := Option.ite_none_right_eq_some.mp h
    obtain rfl := Option.some.inj h
    simp only [Bool.false_eq_true, if_false] at hn ⊢
    exact .integer (by omega) (by omega)
  | true =>
    obtain ⟨hn, h⟩ := Option.ite_none_right_eq_some.mp h
    obtain rfl := Option.some.inj h
    simp only [if_true] at hn ⊢
    exact .integer (by omega) (by omega)

theorem fits_of_floatOf? {digits : List Char} (h : floatOf? digits = some v) : v.Fits := by
  unfold floatOf? at h
  split at h
  · simp at h
  · obtain rfl := Option.some.inj h
    exact .float _
  · simp at h

theorem fitting_special (negative : Bool) : Fitting (readSpecial? negative) := by
  intro s v r h
  unfold readSpecial? at h
  split at h
  · obtain ⟨rfl, -⟩ := Prod.mk.inj (Option.some.inj h)
    exact .float _
  · obtain ⟨rfl, -⟩ := Prod.mk.inj (Option.some.inj h)
    exact .float _
  · simp at h

theorem fitting_decimalNumber : Fitting readDecimalNumber := by
  intro s v r h
  simp only [readDecimalNumber] at h
  split at h
  · next hspecial => exact fitting_special _ (hspecial.trans h)
  · obtain ⟨whole, -, h⟩ := Option.bind_eq_some_iff.mp h
    split at h
    · obtain ⟨fraction, -, h⟩ := Option.bind_eq_some_iff.mp h
      obtain ⟨x, hx, h⟩ := Option.bind_eq_some_iff.mp h
      obtain ⟨rfl, -⟩ := Prod.mk.inj (Option.some.inj h)
      exact fits_of_floatOf? hx
    · obtain ⟨n, -, h⟩ := Option.bind_eq_some_iff.mp h
      obtain ⟨x, hx, h⟩ := Option.bind_eq_some_iff.mp h
      obtain ⟨rfl, -⟩ := Prod.mk.inj (Option.some.inj h)
      exact fits_of_integerOf? hx

theorem fitting_radix (radix : Nat) : Fitting (readRadix radix) := by
  intro s v r h
  obtain ⟨digits, -, h⟩ := Option.bind_eq_some_iff.mp h
  obtain ⟨n, -, h⟩ := Option.bind_eq_some_iff.mp h
  obtain ⟨x, hx, h⟩ := Option.bind_eq_some_iff.mp h
  obtain ⟨rfl, -⟩ := Prod.mk.inj (Option.some.inj h)
  exact fits_of_integerOf? hx

theorem fitting_dateTime : Fitting readDateTime := by
  intro s v r h
  simp only [readDateTime] at h
  split at h
  · split at h
    · obtain ⟨offset, -, h⟩ := Option.bind_eq_some_iff.mp h
      obtain ⟨rfl, -⟩ := Prod.mk.inj (Option.some.inj h)
      exact .dateTime _
    · obtain ⟨rfl, -⟩ := Prod.mk.inj (Option.some.inj h)
      exact .dateTime _
  · obtain ⟨time, -, h⟩ := Option.map_eq_some_iff.mp h
    obtain ⟨rfl, -⟩ := Prod.mk.inj h
    exact .dateTime _

theorem fitting_number : Fitting readNumber := by
  intro s v r h
  unfold readNumber at h
  split at h
  · next hdate => exact fitting_dateTime (hdate.trans h)
  · split at h
    · exact fitting_radix 16 h
    · exact fitting_radix 8 h
    · exact fitting_radix 2 h
    · exact fitting_decimalNumber h

/-! ### Tables that are not finished -/

theorem finishItems_eq_map (items : List (String × Item)) :
    finishItems items = items.map fun e => (e.1, e.2.finish) := by
  induction items with
  | nil => rfl
  | cons e rest ih => rw [finishItems, ih, List.map_cons]

theorem finishOnto_eq (sections : List Section) (done : List Value) :
    finishOnto sections done = (sections.map Section.finish).reverse ++ done := by
  induction sections generalizing done with
  | nil => rfl
  | cons s rest ih => rw [finishOnto, ih]; simp

/-- The elements of an array that headers fill. -/
theorem fits_elements_iff {latest : Section} {earlier : List Section} :
    (Item.elements latest earlier).finish.Fits ↔
      latest.finish.Fits ∧ ∀ s ∈ earlier, s.finish.Fits := by
  rw [Item.finish, finishOnto_eq]
  constructor
  · intro h
    exact ⟨h.elements _ (by simp), fun s hs => h.elements _ (by simp; exact .inl ⟨s, hs, rfl⟩)⟩
  · rintro ⟨hlatest, hearlier⟩
    refine .array fun v hv => ?_
    rcases List.mem_append.mp hv with hv | hv
    · obtain ⟨s, hs, rfl⟩ := List.mem_map.mp (List.mem_reverse.mp hv)
      exact hearlier s hs
    · obtain rfl := List.mem_singleton.mp hv
      exact hlatest

namespace Section

variable {t t' : Section} {key : String} {item : Item} {path : List String}
  {f : Section → Option Section}

theorem fits_iff : t.finish.Fits ↔ ∀ e ∈ t.items, e.2.finish.Fits := by
  obtain ⟨implied, dotted, items⟩ := t
  rw [finish, finishItems_eq_map, Section.items]
  constructor
  · intro h e he
    exact h.entries _ (List.mem_map_of_mem he)
  · refine fun h => .table fun e he => ?_
    obtain ⟨e', he', rfl⟩ := List.mem_map.mp he
    exact h e' he'

theorem fits_new (implied dotted : Bool) : (mk implied dotted []).finish.Fits :=
  fits_iff.mpr (by simp [items])

theorem fits_find? (h : t.finish.Fits) (hfind : t.find? key = some item) : item.finish.Fits :=
  fits_iff.mp h _ (Keyed.mem_of_findIn hfind)

theorem fits_put (h : t.finish.Fits) (hitem : item.finish.Fits) : (t.put key item).finish.Fits := by
  obtain ⟨implied, dotted, entries⟩ := t
  rw [fits_iff] at h ⊢
  unfold items put at *
  dsimp only at *
  induction entries with
  | nil =>
    intro e he
    obtain rfl := List.mem_singleton.mp he
    exact hitem
  | cons e rest ih =>
    obtain ⟨hfirst, hrest⟩ := List.forall_mem_cons.mp h
    unfold Keyed.setIn
    split
    · exact List.forall_mem_cons.mpr ⟨hitem, hrest⟩
    · exact List.forall_mem_cons.mpr ⟨hfirst, ih hrest⟩

/-- A change of the table at the end of a path changes nothing else. -/
theorem fits_within (hf : ∀ {t t'}, t.finish.Fits → f t = some t' → t'.finish.Fits)
    (ht : t.finish.Fits) (h : within how f path t = some t') : t'.finish.Fits := by
  induction path generalizing t t' with
  | nil => exact hf ht h
  | cons key path ih =>
    unfold within at h
    split at h
    · obtain ⟨t₁, ht₁, rfl⟩ := Option.map_eq_some_iff.mp h
      exact fits_put ht (ih (fits_new _ _) ht₁)
    · simp at h
    · next hfind =>
      obtain ⟨hlatest, hearlier⟩ := fits_elements_iff.mp (fits_find? ht hfind)
      obtain ⟨t₁, ht₁, rfl⟩ := Option.map_eq_some_iff.mp h
      exact fits_put ht (fits_elements_iff.mpr ⟨ih hlatest ht₁, hearlier⟩)
    · next hfind =>
      split at h
      · simp at h
      · obtain ⟨t₁, ht₁, rfl⟩ := Option.map_eq_some_iff.mp h
        exact fits_put ht (ih (fits_find? ht hfind) ht₁)

theorem fits_define (ht : t.finish.Fits) (hv : v.Fits) (h : t.define path key v = some t') :
    t'.finish.Fits := by
  refine fits_within (fun {u u'} hu hdefine => ?_) ht h
  split at hdefine
  · simp at hdefine
  split at hdefine
  · simp at hdefine
  · obtain rfl := Option.some.inj hdefine
    exact fits_put hu hv

theorem fits_openTable (ht : t.finish.Fits) (h : openTable key t = some t') : t'.finish.Fits := by
  unfold openTable at h
  split at h
  · obtain rfl := Option.some.inj h
    exact fits_put ht (fits_new false false)
  · next hfind =>
    obtain rfl := Option.some.inj h
    have hitems := fits_iff.mp (fits_find? ht hfind)
    exact fits_put ht (fits_iff.mpr hitems)
  · simp at h

theorem fits_openElement (ht : t.finish.Fits) (h : openElement key t = some t') :
    t'.finish.Fits := by
  unfold openElement at h
  split at h
  · obtain rfl := Option.some.inj h
    exact fits_put ht (fits_elements_iff.mpr ⟨fits_new _ _, by simp⟩)
  · next hfind =>
    obtain rfl := Option.some.inj h
    obtain ⟨hlatest, hearlier⟩ := fits_elements_iff.mp (fits_find? ht hfind)
    exact fits_put ht
      (fits_elements_iff.mpr ⟨fits_new _ _, List.forall_mem_cons.mpr ⟨hlatest, hearlier⟩⟩)
  · simp at h

end Section

/-! ### Values and files -/

variable {read : Source → Option (Value × Source)} {t t' : Section} {key : List String}

theorem fits_readElements (hread : Fitting read) (fuel : Nat) {done vs : List Value}
    (hdone : ∀ v ∈ done, v.Fits) (h : readElements read fuel done s = some (vs, r)) :
    ∀ v ∈ vs, v.Fits := by
  induction fuel generalizing done s with
  | zero => simp [readElements] at h
  | succ fuel ih =>
    unfold readElements at h
    split at h
    · obtain ⟨rfl, -⟩ := Prod.mk.inj (Option.some.inj h)
      exact fun v hv => hdone v (List.mem_reverse.mp hv)
    · obtain ⟨⟨v, r'⟩, hv, h⟩ := Option.bind_eq_some_iff.mp h
      have hdone' := List.forall_mem_cons.mpr ⟨hread hv, hdone⟩
      dsimp only at h
      split at h
      · obtain ⟨rfl, -⟩ := Prod.mk.inj (Option.some.inj h)
        exact fun v hv => hdone' v (List.mem_reverse.mp hv)
      · exact ih hdone' h
      · simp at h

theorem fits_readEntry (hread : Fitting read) (h : readEntry read s = some (key, v, r)) :
    v.Fits := by
  obtain ⟨⟨key', r₁⟩, -, h⟩ := Option.bind_eq_some_iff.mp h
  dsimp only at h
  split at h
  · obtain ⟨⟨v', r₂⟩, hv, h⟩ := Option.bind_eq_some_iff.mp h
    obtain ⟨-, h⟩ := Prod.mk.inj (Option.some.inj h)
    obtain ⟨rfl, -⟩ := Prod.mk.inj h
    exact hread hv
  · simp at h

theorem fits_defineEntry (ht : t.finish.Fits) (hv : v.Fits) (h : defineEntry t key v = some t') :
    t'.finish.Fits := by
  unfold defineEntry at h
  split at h
  · exact Section.fits_define ht hv h
  · simp at h

theorem fits_readEntries (hread : Fitting read) (fuel : Nat) (ht : t.finish.Fits)
    (h : readEntries read fuel t s = some (t', r)) : t'.finish.Fits := by
  induction fuel generalizing t s with
  | zero => simp [readEntries] at h
  | succ fuel ih =>
    unfold readEntries at h
    obtain ⟨⟨key, v, r₁⟩, hentry, h⟩ := Option.bind_eq_some_iff.mp h
    obtain ⟨t₁, hdefine, h⟩ := Option.bind_eq_some_iff.mp h
    have ht₁ := fits_defineEntry ht (fits_readEntry hread hentry) hdefine
    split at h
    · obtain ⟨rfl, -⟩ := Prod.mk.inj (Option.some.inj h)
      exact ht₁
    · exact ih ht₁ h
    · simp at h

theorem fitting_value (room : Nat) : Fitting (readValue room) := by
  -- What an array or a table holds is read with less room.
  induction room using Nat.strongRecOn with
  | ind room ih =>
    intro s v r h
    unfold readValue at h
    split at h
    · obtain ⟨t, -, h⟩ := Option.map_eq_some_iff.mp h
      obtain ⟨rfl, -⟩ := Prod.mk.inj h
      exact .text _
    · obtain ⟨t, -, h⟩ := Option.map_eq_some_iff.mp h
      obtain ⟨rfl, -⟩ := Prod.mk.inj h
      exact .text _
    · -- An array, if there is room for one.
      split at h
      · simp at h
      · obtain ⟨⟨vs, r'⟩, hvs, h⟩ := Option.map_eq_some_iff.mp h
        obtain ⟨rfl, -⟩ := Prod.mk.inj h
        exact .array (fits_readElements (ih _ (Nat.lt_succ_self _)) _ (by simp) hvs)
    · -- A table, if there is room for one.
      split at h
      · simp at h
      split at h
      · obtain ⟨rfl, -⟩ := Prod.mk.inj (Option.some.inj h)
        exact .table (by simp)
      · obtain ⟨⟨t, r'⟩, ht, h⟩ := Option.map_eq_some_iff.mp h
        obtain ⟨rfl, -⟩ := Prod.mk.inj h
        exact fits_readEntries (ih _ (Nat.lt_succ_self _)) _ (Section.fits_new _ _) ht
    · obtain ⟨rfl, -⟩ := Prod.mk.inj (Option.some.inj h)
      exact .boolean _
    · obtain ⟨rfl, -⟩ := Prod.mk.inj (Option.some.inj h)
      exact .boolean _
    · exact fitting_number h

theorem fits_openHeader {open? : String → Section → Option Section}
    (hopen : ∀ {last t t'}, t.finish.Fits → open? last t = some t' → t'.finish.Fits)
    (ht : t.finish.Fits) (h : openHeader open? key t = some t') : t'.finish.Fits := by
  unfold openHeader at h
  split at h
  · exact Section.fits_within hopen ht h
  · simp at h

theorem fits_readHeader {p p' : Progress} (hp : p.root.finish.Fits)
    (h : readHeader p s = some (p', r)) : p'.root.finish.Fits := by
  unfold readHeader at h
  split at h
  · obtain ⟨⟨key, r₁⟩, -, h⟩ := Option.bind_eq_some_iff.mp h
    dsimp only at h
    split at h
    · obtain ⟨root, hroot, h⟩ := Option.bind_eq_some_iff.mp h
      obtain ⟨rfl, -⟩ := Prod.mk.inj (Option.some.inj h)
      exact fits_openHeader Section.fits_openElement hp hroot
    · simp at h
  · obtain ⟨⟨key, r₁⟩, -, h⟩ := Option.bind_eq_some_iff.mp h
    dsimp only at h
    split at h
    · obtain ⟨root, hroot, h⟩ := Option.bind_eq_some_iff.mp h
      obtain ⟨rfl, -⟩ := Prod.mk.inj (Option.some.inj h)
      exact fits_openHeader Section.fits_openTable hp hroot
    · simp at h

theorem fits_readLine {p p' : Progress} (hp : p.root.finish.Fits)
    (h : readLine p s = some (p', r)) : p'.root.finish.Fits := by
  obtain ⟨⟨key, v, r₁⟩, hentry, h⟩ := Option.bind_eq_some_iff.mp h
  obtain ⟨root, hroot, h⟩ := Option.bind_eq_some_iff.mp h
  obtain ⟨rfl, -⟩ := Prod.mk.inj (Option.some.inj h)
  have hv := fits_readEntry (fitting_value _) hentry
  exact Section.fits_within (fun ht => fits_defineEntry ht hv) hp hroot

theorem fits_readFile (fuel : Nat) {p : Progress} (hp : p.root.finish.Fits)
    (h : readFile fuel p s = some t) : t.finish.Fits := by
  induction fuel generalizing p s with
  | zero => simp [readFile] at h
  | succ fuel ih =>
    unfold readFile at h
    split at h
    · obtain rfl := Option.some.inj h
      exact hp
    · obtain ⟨r, -, h⟩ := Option.bind_eq_some_iff.mp h
      exact ih hp h
    · exact ih hp h
    · obtain ⟨r, -, h⟩ := Option.bind_eq_some_iff.mp h
      exact ih hp h
    · obtain ⟨⟨p', r⟩, hheader, h⟩ := Option.bind_eq_some_iff.mp h
      obtain ⟨r', -, h⟩ := Option.bind_eq_some_iff.mp h
      exact ih (fits_readHeader hp hheader) h
    · obtain ⟨⟨p', r⟩, hline, h⟩ := Option.bind_eq_some_iff.mp h
      obtain ⟨r', -, h⟩ := Option.bind_eq_some_iff.mp h
      exact ih (fits_readLine hp hline) h

/-- **What is read from a file can be written down again**: its whole numbers fit 64 bits. -/
theorem fits_of_parse {text : String} (h : parse text = some v) : v.Fits := by
  obtain ⟨t, ht, rfl⟩ := Option.map_eq_some_iff.mp h
  exact fits_readFile _ (Section.fits_new _ _) ht

end HttpGateway.Toml
