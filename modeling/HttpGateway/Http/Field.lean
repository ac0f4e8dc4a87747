/-
Header fields of requests and responses.

* **fieldName?** — a text as the name of a field: a token, in lower case.
* **FieldValue** — the bytes of a value; **FieldValue.text?** reads it as a text if it holds
  visible ASCII, blanks and tabs only.
* **Fields** — the fields of a message in the order in which they came. One name may stand on
  several lines.
-/
import HttpGateway.Text.Utf8

namespace HttpGateway.Http

/-- The characters of a field name. -/
def isTokenChar (c : Char) : Bool :=
  c.isAlphanum || "!#$%&'*+-.^_`|~".toList.contains c

/-- The longest name that a field may have. -/
def longestFieldName : Nat := 65535

/-- A text as the name of a field, in lower case; `none` if it cannot be one. -/
def fieldName? (s : String) : Option String :=
  let cs := s.toList
  if !cs.isEmpty && cs.length ≤ longestFieldName && cs.all isTokenChar then
    some (String.ofList (cs.map Char.toLower))
  else none

/-- The value of a field. -/
abbrev FieldValue := List UInt8

namespace FieldValue

/-- Bytes that are read as text. -/
def isVisible (b : UInt8) : Bool := (0x20 ≤ b && b ≤ 0x7e) || b == 0x09

/-- Bytes that a value may hold. -/
def isAllowed (b : UInt8) : Bool := (0x20 ≤ b && b != 0x7f) || b == 0x09

/-- The value as a text. -/
def text? (v : FieldValue) : Option String :=
  if v.all isVisible then some (String.ofList (v.map fun b => Char.ofNat b.toNat)) else none

/-- A text as a value; `none` if some byte of it may not stand in one. -/
def ofText? (s : String) : Option FieldValue :=
  let bytes := Text.utf8 s.toList
  if bytes.all isAllowed then some bytes else none

/-- A text of ASCII characters as a value. -/
def ofAscii (s : String) : FieldValue :=
  s.toList.map fun c => UInt8.ofNat c.toNat

end FieldValue

/-- The fields of a message. -/
structure Fields where
  entries : List (String × FieldValue)
deriving DecidableEq, Repr

namespace Fields

instance : Inhabited Fields := ⟨⟨[]⟩⟩

/-- No fields. -/
def empty : Fields := ⟨[]⟩

/-- Adds a line at the end. -/
def append (h : Fields) (name : String) (v : FieldValue) : Fields := ⟨h.entries ++ [(name, v)]⟩

/-- All lines of a name, in order. -/
def getAll (h : Fields) (name : String) : List FieldValue :=
  (h.entries.filter (·.1 = name)).map Prod.snd

/-- The first line of a name. -/
def get? (h : Fields) (name : String) : Option FieldValue := (h.getAll name).head?

/-- The first line of a name, if it is a text. -/
def text? (h : Fields) (name : String) : Option String := (h.get? name).bind FieldValue.text?

/-- Whether a name has a line. -/
def contains (h : Fields) (name : String) : Bool := (h.get? name).isSome

/-- Drops all lines of a name. -/
def erase (h : Fields) (name : String) : Fields := ⟨h.entries.filter (·.1 ≠ name)⟩

/-- Drops all lines of several names. -/
def eraseAll (h : Fields) (names : List String) : Fields := names.foldl erase h

/-- Gives a name one line in place of all that it has. -/
def set (h : Fields) (name : String) (v : FieldValue) : Fields := (h.erase name).append name v

@[simp] theorem getAll_append_self (h : Fields) (name : String) (v : FieldValue) :
    (h.append name v).getAll name = h.getAll name ++ [v] := by
  simp [getAll, append]

theorem getAll_append_other (h : Fields) {name other : String} (hne : name ≠ other)
    (v : FieldValue) : (h.append name v).getAll other = h.getAll other := by
  simp [getAll, append, hne]

@[simp] theorem getAll_erase_self (h : Fields) (name : String) :
    (h.erase name).getAll name = [] := by
  simp [getAll, erase, List.filter_filter]

theorem getAll_erase_other (h : Fields) {name other : String} (hne : name ≠ other) :
    (h.erase name).getAll other = h.getAll other := by
  simp only [getAll, erase, List.filter_filter]
  congr 1
  apply List.filter_congr
  intro e _
  by_cases he : e.1 = other <;> simp [he, Ne.symm hne]

@[simp] theorem getAll_set_self (h : Fields) (name : String) (v : FieldValue) :
    (h.set name v).getAll name = [v] := by
  simp [set]

theorem getAll_set_other (h : Fields) {name other : String} (hne : name ≠ other)
    (v : FieldValue) : (h.set name v).getAll other = h.getAll other := by
  rw [set, getAll_append_other _ hne, getAll_erase_other _ hne]

end Fields

end HttpGateway.Http
