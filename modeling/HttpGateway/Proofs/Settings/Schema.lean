/-
How sections are written down and read back.

* **Layout** — which keys of a value may be left out, and what then holds in their place.
* **Trimmed** — a value from which some keys are missing that held just what holds without them.
* **Format** — how something is written down and how it is read back. What was read once is written
  down as a value that fits the file format, and is read back from all that trimming leaves of it.
* **Field**, **Schema** — a field of a section, and a section as a list of fields; a schema makes a
  format (`Schema.format`).

A section is written down field by field and read field by field, so that nothing has to be proved
of a section as a whole but that its two functions do just that.
-/
import HttpGateway.Proofs.Keyed
import HttpGateway.Proofs.Number.Rounding
import HttpGateway.Proofs.Toml.Range
import HttpGateway.Settings.Decode
import HttpGateway.Settings.Encode
import Mathlib.Data.List.Forall2

namespace HttpGateway.Settings

open Number Toml

/-- Which keys of a value may be left out. A section has keys with the value that holds where the
key is missing, if any, and the layout of what stands there. -/
inductive Layout
  | plain
  | list (element : Layout)
  | table (keys : List (String × Option Value × Layout))

/-- Some keys are missing, at any depth, all of which held what holds where they are missing. -/
inductive Trimmed : Layout → Value → Value → Prop
  | same (l : Layout) (v : Value) : Trimmed l v v
  | list {l : Layout} {vs vs' : List Value} (length : vs'.length = vs.length)
      (elements : ∀ e ∈ vs.zip vs', Trimmed l e.1 e.2) :
      Trimmed (.list l) (.array vs) (.array vs')
  | table {keys : List (String × Option Value × Layout)} {es es' : List (String × Value)}
      (kept : ∀ k ∈ keys, ∀ v v', Keyed.findIn k.1 es = some v → Keyed.findIn k.1 es' = some v' →
        Trimmed k.2.2 v v')
      (dropped : ∀ k ∈ keys, ∀ v, Keyed.findIn k.1 es = some v → Keyed.findIn k.1 es' = none →
        k.2.1 = some v)
      (added : ∀ name, Keyed.findIn name es = none → Keyed.findIn name es' = none) :
      Trimmed (.table keys) (.table es) (.table es')

/-- What trimming can do to what stands under one key. -/
inductive Left (l : Layout) (default? : Option Value) : Option Value → Option Value → Prop
  | kept {v v' : Value} (h : Trimmed l v v') : Left l default? (some v) (some v')
  | dropped {v : Value} (h : default? = some v) : Left l default? (some v) none
  | absent : Left l default? none none

namespace Trimmed

variable {v v' : Value} {l : Layout}

theorem plain (h : Trimmed .plain v v') : v' = v := by
  cases h
  rfl

theorem forall₂ {vs : List Value} (h : Trimmed (.list l) (.array vs) v') :
    ∃ vs', v' = .array vs' ∧ List.Forall₂ (Trimmed l) vs vs' := by
  cases h with
  | same => exact ⟨vs, rfl, List.forall₂_same.mpr fun v _ => .same l v⟩
  | list length elements =>
    exact ⟨_, rfl, List.forall₂_iff_zip.mpr ⟨length.symm, fun h => elements _ h⟩⟩

/-- Any keys that hold what holds without them can be taken out. -/
theorem filter {keys : List (String × Option Value × Layout)} {es : List (String × Value)}
    (removed : List String)
    (h : ∀ k ∈ keys, k.1 ∈ removed → ∀ v, Keyed.findIn k.1 es = some v → k.2.1 = some v) :
    Trimmed (.table keys) (.table es) (.table (es.filter (·.1 ∉ removed))) := by
  have hfind := fun name => Keyed.findIn_filter_keys (fun k => decide (k ∉ removed)) name es
  refine .table (fun k _ v v' hv hv' => ?_) (fun k hk v hv hnone => ?_) (fun name hnone => ?_)
  · rw [hfind] at hv'
    obtain ⟨-, hv'⟩ := Option.ite_none_right_eq_some.mp hv'
    obtain rfl := Option.some.inj (hv.symm.trans hv')
    exact .same _ v
  · rw [hfind] at hnone
    refine h k hk (by_contra fun hkept => ?_) v hv
    rw [if_pos (by simpa using hkept), hv] at hnone
    simp at hnone
  · rw [hfind, hnone, ite_self]

theorem left {keys : List (String × Option Value × Layout)} {es : List (String × Value)}
    (h : Trimmed (.table keys) (.table es) v') :
    ∃ es', v' = .table es' ∧
      ∀ k ∈ keys, Left k.2.2 k.2.1 (Keyed.findIn k.1 es) (Keyed.findIn k.1 es') := by
  cases h with
  | same =>
    refine ⟨es, rfl, fun k _ => ?_⟩
    cases Keyed.findIn k.1 es with
    | none => exact .absent
    | some v => exact .kept (.same _ v)
  | @table _ _ es' kept dropped added =>
    refine ⟨es', rfl, fun k hk => ?_⟩
    cases hv : Keyed.findIn k.1 es with
    | none =>
      rw [added k.1 hv]
      exact .absent
    | some v =>
      cases hv' : Keyed.findIn k.1 es' with
      | none => exact .dropped (dropped k hk v hv hv')
      | some v' => exact .kept (kept k hk v v' hv hv')

end Trimmed

/-! ### Formats -/

/-- How something is written down, and how it is read back. -/
structure Format (α : Type) where
  layout : Layout
  encode : α → Value
  decode : Value → Option α
  fits : ∀ {v x}, v.Fits → decode v = some x → (encode x).Fits
  again : ∀ {v v' x}, decode v = some x → Trimmed layout (encode x) v' → decode v' = some x

namespace Format

variable {α : Type}

/-- Something that is read back when it is written down. -/
structure Holds (F : Format α) (x : α) : Prop where
  fits : (F.encode x).Fits
  again : F.decode (F.encode x) = some x

/-- What is read is read back. -/
theorem holds_of_decode {F : Format α} {v : Value} {x : α} (hv : v.Fits)
    (h : F.decode v = some x) : F.Holds x :=
  ⟨F.fits hv h, F.again h (.same _ _)⟩

def text : Format String where
  layout := .plain
  encode := .text
  decode := decodeText
  fits _ _ := .text _
  again _ h := by rw [h.plain]; rfl

def bool : Format Bool where
  layout := .plain
  encode := .boolean
  decode := decodeBool
  fits _ _ := .boolean _
  again _ h := by rw [h.plain]; rfl

theorem decodeNat_eq_some {bits n : Nat} {v : Value} :
    decodeNat bits v = some n ↔ v = .integer n ∧ n < Nat.pow 2 bits := by
  unfold decodeNat
  split
  · next i =>
    rw [Option.ite_none_right_eq_some, Option.some_inj, Value.integer.injEq]
    constructor
    · rintro ⟨⟨hi, hlt⟩, rfl⟩
      exact ⟨by omega, hlt⟩
    · rintro ⟨rfl, hlt⟩
      exact ⟨⟨by omega, hlt⟩, rfl⟩
  · next hne =>
    constructor
    · simp
    · rintro ⟨rfl, -⟩
      exact absurd rfl (hne n)

def nat (bits : Nat) : Format Nat where
  layout := .plain
  encode := encodeNat
  decode := decodeNat bits
  fits hv h := by
    obtain ⟨rfl, -⟩ := decodeNat_eq_some.mp h
    exact hv
  again h hv := by
    obtain ⟨rfl, hlt⟩ := decodeNat_eq_some.mp h
    exact decodeNat_eq_some.mpr ⟨hv.plain, hlt⟩

def int : Format Int where
  layout := .plain
  encode := .integer
  decode := decodeInt
  fits hv h := by
    unfold decodeInt at h
    split at h
    · obtain ⟨-, h⟩ := Option.ite_none_right_eq_some.mp h
      obtain rfl := Option.some.inj h
      exact hv
    · simp at h
  again h hv := by
    rw [hv.plain]
    unfold decodeInt at h ⊢
    split at h
    · obtain ⟨hrange, h⟩ := Option.ite_none_right_eq_some.mp h
      obtain rfl := Option.some.inj h
      exact if_pos hrange
    · simp at h

def float : Format Floating where
  layout := .plain
  encode := .float
  decode := decodeFloat
  fits _ _ := .float _
  again {v v' x} h hv := by
    have hprecision : 0 < FloatFormat.single.precision := by decide
    have hsingle : x.convert .single = x := by
      unfold decodeFloat at h
      split at h
      · obtain rfl := Option.some.inj h
        exact Floating.convert_convert hprecision _
      · obtain rfl := Option.some.inj h
        exact FloatFormat.convert_round hprecision _
      · simp at h
    rw [hv.plain]
    exact congrArg some hsingle

/-- Reading all elements of an array. -/
theorem mapM_eq_some_iff {β : Type} {read : β → Option α} {vs : List β} {xs : List α} :
    vs.mapM read = some xs ↔ List.Forall₂ (fun v x => read v = some x) vs xs := by
  induction vs generalizing xs with
  | nil => simp [eq_comm]
  | cons v vs ih =>
    rw [List.mapM_cons, List.forall₂_cons_left_iff]
    simp only [Option.bind_eq_bind, Option.bind_eq_some_iff, Option.pure_def, Option.some_inj, ih]
    constructor
    · rintro ⟨x, hx, xs', hxs', rfl⟩
      exact ⟨x, xs', hx, hxs', rfl⟩
    · rintro ⟨x, xs', hx, hxs', rfl⟩
      exact ⟨x, hx, xs', hxs', rfl⟩

theorem decodeList_eq_some {read : Value → Option α} {v : Value} {xs : List α} :
    decodeList read v = some xs ↔
      ∃ vs, v = .array vs ∧ List.Forall₂ (fun v x => read v = some x) vs xs := by
  unfold decodeList
  split
  · simp [mapM_eq_some_iff]
  · next hne =>
    constructor
    · simp
    · rintro ⟨vs, rfl, -⟩
      exact absurd rfl (hne vs)

def list (F : Format α) : Format (List α) where
  layout := .list F.layout
  encode := encodeList F.encode
  decode := decodeList F.decode
  fits {v xs} hv h := by
    obtain ⟨vs, rfl, hread⟩ := decodeList_eq_some.mp h
    have hfits : ∀ x ∈ xs, (F.encode x).Fits := by
      have helements := hv.elements
      clear hv h
      induction hread with
      | nil => simp
      | cons hx _ ih =>
        obtain ⟨hfirst, hrest⟩ := List.forall_mem_cons.mp helements
        exact List.forall_mem_cons.mpr ⟨F.fits hfirst hx, ih hrest⟩
    exact .array (List.forall_mem_map.mpr hfits)
  again {v v' xs} h hv := by
    obtain ⟨vs, rfl, hread⟩ := decodeList_eq_some.mp h
    obtain ⟨vs', rfl, hleft⟩ := hv.forall₂
    refine decodeList_eq_some.mpr ⟨vs', rfl, ?_⟩
    rw [List.forall₂_map_left_iff] at hleft
    clear hv h
    induction hread generalizing vs' with
    | nil =>
      obtain rfl := List.forall₂_nil_left_iff.mp hleft
      exact .nil
    | cons hx _ ih =>
      obtain ⟨w, rest, hw, hrest, rfl⟩ := List.forall₂_cons_left_iff.mp hleft
      exact .cons (F.again hx hw) (ih rest hrest)

theorem decodeArgs_eq_some {v : Value} {args : List (String × String)} :
    decodeArgs v = some args ↔ ∃ es read, v.fields? = some es ∧
      List.Forall₂ (fun e a => (decodeText e.2).map (e.1, ·) = some a) es read ∧
      read.mergeSort (fun a b => a.1 ≤ b.1) = args := by
  simp only [decodeArgs, Option.bind_eq_bind, Option.bind_eq_some_iff, Option.pure_def,
    Option.some_inj, mapM_eq_some_iff]
  constructor
  · rintro ⟨es, hes, read, hread, rfl⟩
    exact ⟨es, read, hes, hread, rfl⟩
  · rintro ⟨es, read, hes, hread, rfl⟩
    exact ⟨es, hes, read, hread, rfl⟩

/-- Arguments come in the order of their names. -/
theorem pairwise_of_decodeArgs {v : Value} {args : List (String × String)}
    (h : decodeArgs v = some args) : args.Pairwise fun a b => a.1 ≤ b.1 := by
  obtain ⟨es, read, -, -, rfl⟩ := decodeArgs_eq_some.mp h
  have htrans : ∀ a b c : String × String, decide (a.1 ≤ b.1) = true → decide (b.1 ≤ c.1) = true →
      decide (a.1 ≤ c.1) = true := fun a b c hab hbc =>
    decide_eq_true (String.le_trans (of_decide_eq_true hab) (of_decide_eq_true hbc))
  have htotal : ∀ a b : String × String, (decide (a.1 ≤ b.1) || decide (b.1 ≤ a.1)) = true :=
    fun a b => by simpa using String.le_total a.1 b.1
  exact (List.pairwise_mergeSort htrans htotal read).imp fun h => of_decide_eq_true h

def args : Format (List (String × String)) where
  layout := .plain
  encode := encodeArgs
  decode := decodeArgs
  fits _ _ := .table (List.forall_mem_map.mpr fun _ _ => .text _)
  again {v v' as} h hv := by
    have hsorted := pairwise_of_decodeArgs h
    rw [hv.plain]
    refine decodeArgs_eq_some.mpr ⟨_, as, rfl, ?_, ?_⟩
    · rw [List.forall₂_map_left_iff]
      exact List.forall₂_same.mpr fun a _ => rfl
    · exact List.mergeSort_of_pairwise (hsorted.imp fun h => decide_eq_true h)

@[simp] theorem decode_text : text.decode = decodeText := rfl

@[simp] theorem decode_bool : bool.decode = decodeBool := rfl

@[simp] theorem decode_nat (bits : Nat) : (nat bits).decode = decodeNat bits := rfl

@[simp] theorem decode_int : int.decode = decodeInt := rfl

@[simp] theorem decode_float : float.decode = decodeFloat := rfl

@[simp] theorem decode_args : args.decode = decodeArgs := rfl

@[simp] theorem decode_list (F : Format α) : (list F).decode = decodeList F.decode := rfl

theorem holds_text (s : String) : text.Holds s := ⟨.text s, rfl⟩

theorem holds_bool (b : Bool) : bool.Holds b := ⟨.boolean b, rfl⟩

theorem holds_nat {bits n : Nat} (h : n < Nat.pow 2 bits ∧ n ≤ 9223372036854775807) :
    (nat bits).Holds n :=
  ⟨.integer (by omega) (by omega), decodeNat_eq_some.mpr ⟨rfl, h.1⟩⟩

theorem holds_int {n : Int} (h : -2147483648 ≤ n ∧ n < 2147483648) : int.Holds n :=
  ⟨.integer (by omega) (by omega), if_pos h⟩

theorem holds_float {x : Floating} (h : x.convert .single = x) : float.Holds x :=
  ⟨.float x, congrArg some h⟩

theorem holds_nil (F : Format α) : (list F).Holds [] := ⟨.array (by simp), rfl⟩

theorem holds_no_args : args.Holds [] := by
  refine ⟨.table (by simp), ?_⟩
  simp [args, encodeArgs, decodeArgs, Value.fields?]

end Format

/-! ### Sections -/

/-- A field of a section: what stands under its name, and what it means to read it. -/
structure Field (X : Type) where
  name : String
  default? : Option Value
  layout : Layout
  entry : X → Option Value
  Reads : Lookup → X → Prop
  fits : ∀ {get x}, (∀ v, get name = some v → v.Fits) → Reads get x →
    ∀ v, entry x = some v → v.Fits
  again : ∀ {get get' x}, Reads get x → Left layout default? (entry x) (get' name) → Reads get' x

namespace Field

variable {X α : Type}

/-- A field that has to be there. -/
def required (name : String) (F : Format α) (part : X → α) : Field X where
  name := name
  default? := none
  layout := F.layout
  entry x := some (F.encode (part x))
  Reads get x := Settings.required get name F.decode = some (part x)
  fits {get x} hget h v hv := by
    obtain rfl := Option.some.inj hv
    obtain ⟨w, hw, hx⟩ := Option.bind_eq_some_iff.mp h
    exact F.fits (hget w hw) hx
  again {get get' x} h hleft := by
    obtain ⟨w, -, hx⟩ := Option.bind_eq_some_iff.mp h
    generalize hgot : get' name = got at hleft
    cases hleft with
    | kept hv => exact Option.bind_eq_some_iff.mpr ⟨_, hgot, F.again hx hv⟩
    | dropped hnone => simp at hnone

/-- A field that has a default value. -/
def optional (name : String) (F : Format α) (part : X → α) (default : α)
    (hdefault : F.Holds default) : Field X where
  name := name
  default? := some (F.encode default)
  layout := F.layout
  entry x := some (F.encode (part x))
  Reads get x := Settings.optional get name default F.decode = some (part x)
  fits {get x} hget h v hv := by
    obtain rfl := Option.some.inj hv
    unfold Settings.optional at h
    split at h
    · next w hw => exact F.fits (hget w hw) h
    · rw [← Option.some.inj h]
      exact hdefault.fits
  again {get get' x} h hleft := by
    have hread : ∃ w, F.decode w = some (part x) := by
      unfold Settings.optional at h
      split at h
      · exact ⟨_, h⟩
      · rw [← Option.some.inj h]
        exact ⟨_, hdefault.again⟩
    obtain ⟨w, hw⟩ := hread
    unfold Settings.optional
    generalize get' name = got at hleft
    cases hleft with
    | kept hv => exact F.again hw hv
    | dropped hsame =>
      -- What is written down is the default, so that the default is what was read.
      have hagain := F.again hw (.same _ _)
      rw [← Option.some.inj hsame] at hagain
      exact hdefault.again.symm.trans hagain

/-- A field that may be left out. -/
def absent (name : String) (F : Format α) (part : X → Option α) : Field X where
  name := name
  default? := none
  layout := F.layout
  entry x := (part x).map F.encode
  Reads get x := absent? get name F.decode = some (part x)
  fits {get x} hget h v hv := by
    obtain ⟨a, ha, rfl⟩ := Option.map_eq_some_iff.mp hv
    unfold absent? Settings.optional at h
    rw [ha] at h
    split at h
    · next w hw =>
      obtain ⟨b, hb, hab⟩ := Option.map_eq_some_iff.mp h
      obtain rfl := Option.some.inj hab
      exact F.fits (hget w hw) hb
    · simp at h
  again {get get' x} h hleft := by
    unfold absent? Settings.optional at h ⊢
    cases ha : part x with
    | none =>
      rw [ha] at hleft
      generalize get' name = got at hleft
      cases hleft
      rfl
    | some a =>
      rw [ha] at h hleft
      have hread : ∃ w, F.decode w = some a := by
        split at h
        · obtain ⟨b, hb, hab⟩ := Option.map_eq_some_iff.mp h
          exact ⟨_, hb.trans hab⟩
        · simp at h
      obtain ⟨w, hw⟩ := hread
      generalize get' name = got at hleft
      cases hleft with
      | kept hv => exact congrArg (Option.map some) (F.again hw hv)
      | dropped hnone => simp at hnone

/-- A field with the value that it has in a section where nothing is set. -/
abbrev common (unset : X) (name : String) (F : Format α) (part : X → α)
    (hdefault : F.Holds (part unset)) : Field X :=
  optional name F part (part unset) hdefault

section

variable {name : String} {F : Format α} {default : α} {get : Lookup} {x : X}

@[simp] theorem name_required (part : X → α) : (required name F part).name = name := rfl

@[simp] theorem name_optional (part : X → α) (hdefault : F.Holds default) :
    (optional name F part default hdefault).name = name := rfl

@[simp] theorem name_absent (part : X → Option α) : (absent name F part).name = name := rfl

@[simp] theorem reads_required (part : X → α) :
    (required name F part).Reads get x ↔ Settings.required get name F.decode = some (part x) :=
  Iff.rfl

@[simp] theorem reads_optional (part : X → α) (hdefault : F.Holds default) :
    (optional name F part default hdefault).Reads get x ↔
      Settings.optional get name default F.decode = some (part x) :=
  Iff.rfl

@[simp] theorem reads_absent (part : X → Option α) :
    (absent name F part).Reads get x ↔ absent? get name F.decode = some (part x) :=
  Iff.rfl

end

/-- The entry of a field in its section. -/
def written (f : Field X) (x : X) : Option (String × Value) := (f.entry x).map (f.name, ·)

/-- The key of a field. -/
def key (f : Field X) : String × Option Value × Layout := (f.name, f.default?, f.layout)

/-- Under the name of a field stands its entry. -/
theorem findIn_written {fields : List (Field X)} (hdistinct : (fields.map name).Nodup) (x : X)
    {f : Field X} (hf : f ∈ fields) :
    Keyed.findIn f.name (fields.filterMap (·.written x)) = f.entry x := by
  induction fields with
  | nil => simp at hf
  | cons g rest ih =>
    obtain ⟨hnew, hdistinct⟩ := List.nodup_cons.mp hdistinct
    rw [List.filterMap_cons]
    rcases List.mem_cons.mp hf with rfl | hmem
    · have hnone : Keyed.findIn f.name (rest.filterMap (·.written x)) = none := by
        refine Keyed.findIn_eq_none_iff.mpr fun hmem => hnew ?_
        obtain ⟨e, he, hname⟩ := List.mem_map.mp hmem
        obtain ⟨g, hg, hwritten⟩ := List.mem_filterMap.mp he
        obtain ⟨w, -, rfl⟩ := Option.map_eq_some_iff.mp hwritten
        exact List.mem_map.mpr ⟨g, hg, hname⟩
      unfold written
      cases hentry : f.entry x with
      | none => exact hnone
      | some v => simp [Keyed.findIn]
    · have hne : g.name ≠ f.name := fun heq => hnew (heq ▸ List.mem_map_of_mem hmem)
      unfold written at ih ⊢
      cases g.entry x with
      | none => exact ih hdistinct hmem
      | some v => simpa [Keyed.findIn, hne] using ih hdistinct hmem

end Field

/-- A section as a list of its fields. -/
structure Schema (X : Type) where
  fields : List (Field X)
  encode : X → Value
  decode : Value → Option X
  distinct : (fields.map Field.name).Nodup
  encode_eq : ∀ x, encode x = .table (fields.filterMap (·.written x))
  decode_iff : ∀ {v x}, decode v = some x ↔
    ∃ get, lookup? (fields.map Field.name) v = some get ∧ ∀ f ∈ fields, f.Reads get x

/-- What is found in a value that fits does so as well. -/
theorem fits_of_lookup? {names : List String} {v : Value} {get : Lookup} (hv : v.Fits)
    (h : lookup? names v = some get) {name : String} {w : Value} (hw : get name = some w) :
    w.Fits := by
  cases v with
  | array elements =>
    obtain rfl := Option.some.inj h
    exact hv.elements w (List.mem_of_getElem? hw)
  | table entries =>
    obtain rfl := Option.some.inj h
    exact hv.entries _ (Keyed.mem_of_findIn hw)
  | dateTime d =>
    obtain rfl := Option.some.inj h
    obtain ⟨-, rfl⟩ := Prod.mk.inj (List.mem_singleton.mp (Keyed.mem_of_findIn hw))
    exact .text _
  | _ => simp [lookup?, Value.fields?] at h

/-- The format of a section. -/
def Schema.format {X : Type} (S : Schema X) : Format X where
  layout := .table (S.fields.map Field.key)
  encode := S.encode
  decode := S.decode
  fits {v x} hv h := by
    obtain ⟨get, hget, hreads⟩ := S.decode_iff.mp h
    rw [S.encode_eq]
    refine .table fun e he => ?_
    obtain ⟨f, hf, hwritten⟩ := List.mem_filterMap.mp he
    obtain ⟨w, hw, rfl⟩ := Option.map_eq_some_iff.mp hwritten
    exact f.fits (fun v hv' => fits_of_lookup? hv hget hv') (hreads f hf) w hw
  again {v v' x} h hv := by
    obtain ⟨get, -, hreads⟩ := S.decode_iff.mp h
    rw [S.encode_eq] at hv
    obtain ⟨es', rfl, hleft⟩ := hv.left
    refine S.decode_iff.mpr ⟨_, rfl, fun f hf => f.again (hreads f hf) ?_⟩
    have hkey := hleft f.key (List.mem_map_of_mem hf)
    rwa [Field.key, Field.findIn_written S.distinct x hf] at hkey

/-- What a section is where nothing is set. -/
theorem holds_unset {X : Type} {S : Schema X} {unset : X} (h : S.decode (.table []) = some unset) :
    S.format.Holds unset :=
  Format.holds_of_decode (.table (by simp)) h

end HttpGateway.Settings
