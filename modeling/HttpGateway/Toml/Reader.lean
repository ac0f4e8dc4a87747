/-
Reading configuration files.

* **parse** — the table that a file stands for; `none` where the file is not well formed.
* **readValue** — one value. Arrays and tables within values may be nested a limited number of
  times, and a dotted key may have a limited number of parts.
-/
import HttpGateway.Toml.Scalar
import HttpGateway.Toml.Section

namespace HttpGateway.Toml

/-- How deep values may be nested. -/
def nestingLimit : Nat := 79

/-- How many parts a dotted key may have. -/
def keyLimit : Nat := 79

/-- Characters of keys without quotes. -/
def isBareKeyChar (c : Char) : Bool := c.isAlphanum || c == '-' || c == '_'

/-- One part of a key. -/
def readKeyPart (s : Source) : Option (String × Source) :=
  match s with
  | '"' :: _ | '\'' :: _ => readShortString s
  | _ =>
    let bare := s.takeWhile isBareKeyChar
    if bare.isEmpty then none else some (String.ofList bare, s.drop bare.length)

/-- The parts of a key with points between them; blanks may stand around each. `fuel` is more than
there are characters. -/
def readKeyParts : Nat → Source → Option (List String × Source)
  | 0, _ => none
  | fuel + 1, s => do
    let (part, s) ← readKeyPart (skipBlanks s)
    match skipBlanks s with
    | '.' :: s => do
      let (parts, s) ← readKeyParts fuel s
      return (part :: parts, s)
    | s => return ([part], s)

/-- A key. -/
def readKey (s : Source) : Option (List String × Source) := do
  let (parts, s) ← readKeyParts (s.length + 1) s
  if keyLimit < parts.length then none else some (parts, s)

/-- Skips blanks, comments and line ends between the elements of an array. `fuel` is more than
there are characters. -/
def skipBetween : Nat → Source → Source
  | 0, s => s
  | fuel + 1, s =>
    let s := skipBlanks s
    match skipNewline? (skipComment s) with
    | some r => skipBetween fuel r
    | none => s

/-- The rest of an array, from the start of an element or its end on. -/
def readElements (element : Source → Option (Value × Source)) :
    Nat → List Value → Source → Option (List Value × Source)
  | 0, _, _ => none
  | fuel + 1, done, s =>
    match skipBetween s.length s with
    | ']' :: r => some (done.reverse, r)
    | s => do
      let (v, s) ← element s
      match skipBetween s.length s with
      | ']' :: r => return ((v :: done).reverse, r)
      | ',' :: r => readElements element fuel (v :: done) r
      | _ => none

/-- A key and its value. -/
def readEntry (value : Source → Option (Value × Source)) (s : Source) :
    Option (List String × Value × Source) := do
  let (key, s) ← readKey s
  let '=' :: s := s | none
  let (v, s) ← value (skipBlanks s)
  return (key, v, s)

/-- Puts a value under the key of an entry. -/
def defineEntry (s : Section) (key : List String) (v : Value) : Option Section :=
  match key.getLast? with
  | some last => s.define key.dropLast last v
  | none => none

/-- The rest of a table in braces, from the start of an entry on. -/
def readEntries (value : Source → Option (Value × Source)) :
    Nat → Section → Source → Option (Section × Source)
  | 0, _, _ => none
  | fuel + 1, done, s => do
    let (key, v, s) ← readEntry value s
    let done ← defineEntry done key v
    match skipBlanks s with
    | '\x7d' :: r => return (done, r)
    | ',' :: r => readEntries value fuel done r
    | _ => none

/-- A value. `room` is how deep values in it may still be nested. -/
def readValue : Nat → Source → Option (Value × Source)
  | room, s =>
    match s with
    | '"' :: _ | '\'' :: _ => (readString s).map fun (t, r) => (.text t, r)
    | '[' :: r =>
      match room with
      | 0 => none
      | room + 1 =>
        (readElements (readValue room) (r.length + 1) [] r).map fun (vs, r) => (.array vs, r)
    | '\x7b' :: r =>
      match room with
      | 0 => none
      | room + 1 =>
        match skipBlanks r with
        | '\x7d' :: r => some (.table [], r)
        | _ =>
          (readEntries (readValue room) (r.length + 1) .headed r).map
            fun (t, r) => (t.finish, r)
    | 't' :: 'r' :: 'u' :: 'e' :: r => some (.boolean true, r)
    | 'f' :: 'a' :: 'l' :: 's' :: 'e' :: r => some (.boolean false, r)
    | _ => readNumber s

/-- Skips what may follow on a line, and its end. -/
def skipLineEnd? (s : Source) : Option Source :=
  match skipComment (skipBlanks s) with
  | [] => some []
  | s => skipNewline? s

/-- A file as far as it has been read: its table, and the header under which entries stand. -/
structure Progress where
  root : Section
  header : List String

/-- Opens what a header names. -/
def openHeader (open? : String → Section → Option Section) (key : List String) (root : Section) :
    Option Section :=
  match key.getLast? with
  | some last => root.within .header (open? last) key.dropLast
  | none => none

/-- Reads a header behind its first bracket. -/
def readHeader (p : Progress) (s : Source) : Option (Progress × Source) :=
  match s with
  | '[' :: s => do
    let (key, s) ← readKey s
    let ']' :: ']' :: s := s | none
    return (⟨← openHeader Section.openElement key p.root, key⟩, s)
  | s => do
    let (key, s) ← readKey s
    let ']' :: s := s | none
    return (⟨← openHeader Section.openTable key p.root, key⟩, s)

/-- Reads an entry under the header. -/
def readLine (p : Progress) (s : Source) : Option (Progress × Source) := do
  let (key, v, s) ← readEntry (readValue nestingLimit) s
  let root ← p.root.within .header (defineEntry · key v) p.header
  return ({ p with root }, s)

/-- Reads line after line. `fuel` is more than there are characters. -/
def readFile : Nat → Progress → Source → Option Section
  | 0, _, _ => none
  | fuel + 1, p, s =>
    match skipBlanks s with
    | [] => some p.root
    | '#' :: r => (skipLineEnd? ('#' :: r)).bind (readFile fuel p)
    | '\n' :: r => readFile fuel p r
    | '\r' :: r => (skipNewline? ('\r' :: r)).bind (readFile fuel p)
    | '[' :: r => do
      let (p, r) ← readHeader p r
      readFile fuel p (← skipLineEnd? r)
    | s => do
      let (p, r) ← readLine p s
      readFile fuel p (← skipLineEnd? r)

/-- Skips the mark that may stand at the start of a file. -/
def skipMark : Source → Source
  | '\ufeff' :: r => r
  | s => s

/-- The table that a file stands for. -/
def parse (text : String) : Option Value :=
  let s := skipMark text.toList
  (readFile (s.length + 1) ⟨.headed, []⟩ s).map Section.finish

end HttpGateway.Toml
