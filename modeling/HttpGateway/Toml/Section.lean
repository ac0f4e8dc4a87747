/-
Tables while they are read.

A table can be written in pieces: under a header of its own, through dotted keys, or by headers of
tables inside it. What may still be added to it depends on how it came about.

* **Section** — a table that is not finished, with how it came about.
* **Section.within** — goes down a path of keys, making what is missing on the way.
* **Section.define** — puts a value under a dotted key.
* **Section.openTable**, **Section.openElement** — what a header does.
* **Section.finish** — the table as a value.
-/
import HttpGateway.Keyed
import HttpGateway.Toml.Value

namespace HttpGateway.Toml

mutual

/-- What stands under a key: a value, a table, or the elements of an array that headers fill, the
last one in front. -/
inductive Item
  | value (v : Value)
  | section (s : Section)
  | elements (latest : Section) (earlier : List Section)

/-- A table that is not finished. `implied` tables have no header of their own; `dotted` ones came
about through dotted keys. -/
inductive Section
  | mk (implied dotted : Bool) (items : List (String × Item))

end

instance : Inhabited Section := ⟨.mk false false []⟩

/-- How a path is gone down: by a header, or by a dotted key. -/
inductive Descent
  | header
  | dottedKey
deriving DecidableEq

namespace Section

/-- A table with a header of its own. -/
def headed : Section := .mk false false []

def items : Section → List (String × Item)
  | mk _ _ items => items

def isImplied : Section → Bool
  | mk implied _ _ => implied

def isDotted : Section → Bool
  | mk _ dotted _ => dotted

def find? (s : Section) (key : String) : Option Item := Keyed.findIn key s.items

def put (s : Section) (key : String) (item : Item) : Section :=
  match s with
  | mk implied dotted items => mk implied dotted (Keyed.setIn key item items)

/-- Goes down a path and changes the table at its end. A dotted key does not lead into a table that
has a header of its own. -/
def within (how : Descent) (f : Section → Option Section) : List String → Section → Option Section
  | [], s => f s
  | key :: path, s =>
    match s.find? key with
    | none => (within how f path (mk true (how = .dottedKey) [])).map fun t => s.put key (.section t)
    | some (.value _) => none
    | some (.elements latest earlier) =>
      (within how f path latest).map fun t => s.put key (.elements t earlier)
    | some (.section t) =>
      if how = .dottedKey ∧ !t.isImplied then none
      else (within how f path t).map fun t => s.put key (.section t)

/-- Puts a value under a key that is free. Through a dotted key that is possible only in a table
that came about through one, and otherwise only in one that did not. -/
def define (path : List String) (key : String) (v : Value) (s : Section) : Option Section :=
  within .dottedKey (fun t =>
    if t.isDotted = path.isEmpty then none
    else match t.find? key with
      | some _ => none
      | none => some (t.put key (.value v))) path s

/-- Opens the table that a header names: a new one, or one that is there only because of tables
inside it. -/
def openTable (key : String) (s : Section) : Option Section :=
  match s.find? key with
  | none => some (s.put key (.section headed))
  | some (.section (mk true false items)) => some (s.put key (.section (mk false false items)))
  | some _ => none

/-- Opens a new element of the array that a header names. -/
def openElement (key : String) (s : Section) : Option Section :=
  match s.find? key with
  | none => some (s.put key (.elements headed []))
  | some (.elements latest earlier) => some (s.put key (.elements headed (latest :: earlier)))
  | some _ => none

end Section

mutual

/-- The item as a value. -/
def Item.finish : Item → Value
  | .value v => v
  | .section s => s.finish
  | .elements latest earlier => .array (finishOnto earlier [latest.finish])

/-- The table as a value. -/
def Section.finish : Section → Value
  | .mk _ _ items => .table (finishItems items)

/-- The values of tables, in the opposite order, in front of others. -/
def finishOnto : List Section → List Value → List Value
  | [], done => done
  | s :: rest, done => finishOnto rest (s.finish :: done)

def finishItems : List (String × Item) → List (String × Value)
  | [] => []
  | (key, item) :: rest => (key, item.finish) :: finishItems rest

end

end HttpGateway.Toml
