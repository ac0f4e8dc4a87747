/-
Stores that hold at most one value per key.

* **find**, **set**, **erase** — look up a key, give it a value, forget it. A new key goes to the
  end; a key that is there keeps its place.
* The lemmas say what each operation does to `find`: `find_set_self`, `find_set_other`,
  `find_erase_self`, `find_erase_other`. All other keys are left alone.
-/
namespace HttpGateway

/-- A list of keys with their values. -/
structure Keyed (κ α : Type) where
  entries : List (κ × α)
deriving Repr

namespace Keyed

variable {κ α : Type} [DecidableEq κ]

instance : Inhabited (Keyed κ α) := ⟨⟨[]⟩⟩

/-- No keys at all. -/
def empty : Keyed κ α := ⟨[]⟩

/-- The value of a key in a list of entries. -/
def findIn (k : κ) : List (κ × α) → Option α
  | [] => none
  | (k', a) :: rest => if k' = k then some a else findIn k rest

/-- The entries with a value for a key. -/
def setIn (k : κ) (a : α) : List (κ × α) → List (κ × α)
  | [] => [(k, a)]
  | (k', a') :: rest => if k' = k then (k, a) :: rest else (k', a') :: setIn k a rest

/-- The value of a key. -/
def find (s : Keyed κ α) (k : κ) : Option α := findIn k s.entries

/-- The value of a key, or a given one where it has none. -/
def findD (s : Keyed κ α) (k : κ) (default : α) : α := (s.find k).getD default

/-- Gives a key a value. -/
def set (s : Keyed κ α) (k : κ) (a : α) : Keyed κ α := ⟨setIn k a s.entries⟩

/-- Forgets a key. -/
def erase (s : Keyed κ α) (k : κ) : Keyed κ α := ⟨s.entries.filter (·.1 ≠ k)⟩

/-- Changes the value of a key that has one. -/
def update (s : Keyed κ α) (k : κ) (f : α → α) : Keyed κ α :=
  match s.find k with
  | some a => s.set k (f a)
  | none => s

/-- Whether a key has a value. -/
def contains (s : Keyed κ α) (k : κ) : Bool := (s.find k).isSome

def keys (s : Keyed κ α) : List κ := s.entries.map Prod.fst

theorem findIn_setIn_self (k : κ) (a : α) (l : List (κ × α)) :
    findIn k (setIn k a l) = some a := by
  induction l with
  | nil => simp [setIn, findIn]
  | cons e rest ih => by_cases h : e.1 = k <;> simp [setIn, findIn, h, ih]

theorem findIn_setIn_other {k k' : κ} (h : k ≠ k') (a : α) (l : List (κ × α)) :
    findIn k' (setIn k a l) = findIn k' l := by
  induction l with
  | nil => simp [setIn, findIn, h]
  | cons e rest ih =>
    by_cases he : e.1 = k
    · simp [setIn, findIn, he, h]
    · by_cases he' : e.1 = k'
      · simp [setIn, findIn, he', Ne.symm h]
      · simp [setIn, findIn, he, he', ih]

theorem findIn_filter_self (k : κ) (l : List (κ × α)) :
    findIn k (l.filter (·.1 ≠ k)) = none := by
  induction l with
  | nil => rfl
  | cons e rest ih => by_cases h : e.1 = k <;> simp_all [findIn]

theorem findIn_filter_other {k k' : κ} (h : k ≠ k') (l : List (κ × α)) :
    findIn k' (l.filter (·.1 ≠ k)) = findIn k' l := by
  induction l with
  | nil => rfl
  | cons e rest ih =>
    by_cases he : e.1 = k
    · simp_all [findIn]
    · by_cases he' : e.1 = k' <;> simp_all [findIn]

@[simp] theorem find_empty (k : κ) : (empty : Keyed κ α).find k = none := rfl

@[simp] theorem find_set_self (s : Keyed κ α) (k : κ) (a : α) : (s.set k a).find k = some a :=
  findIn_setIn_self k a s.entries

theorem find_set_other (s : Keyed κ α) {k k' : κ} (h : k ≠ k') (a : α) :
    (s.set k a).find k' = s.find k' :=
  findIn_setIn_other h a s.entries

@[simp] theorem find_erase_self (s : Keyed κ α) (k : κ) : (s.erase k).find k = none :=
  findIn_filter_self k s.entries

theorem find_erase_other (s : Keyed κ α) {k k' : κ} (h : k ≠ k') :
    (s.erase k).find k' = s.find k' :=
  findIn_filter_other h s.entries

end Keyed

end HttpGateway
