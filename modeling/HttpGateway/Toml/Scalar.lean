/-
Reading texts, numbers, dates and times.

Each reader takes the characters from its first one on and returns what it has read and the
characters after it, or nothing where there is no such thing.

* **readString** — a text in one of four kinds of quotes.
* **readNumber** — a whole number in one of four radixes, a floating-point number, or a date or
  time.
* **skipBlanks**, **skipComment**, **skipNewline?** — what may stand between.
-/
import HttpGateway.Toml.Value

namespace HttpGateway.Toml

open Number Text

/-- Characters from which a reader reads. -/
abbrev Source := List Char

/-- Blanks within a line. -/
def isWhite (c : Char) : Bool := c == ' ' || c == '\t'

def skipBlanks (s : Source) : Source := s.dropWhile isWhite

/-- Characters of comments and texts: no control characters other than the tab. -/
def isPlain (c : Char) : Bool := c == '\t' || (0x20 ≤ c.toNat && c.toNat != 0x7F)

/-- Skips a comment up to the end of its line. -/
def skipComment (s : Source) : Source :=
  match s with
  | '#' :: r => r.dropWhile isPlain
  | _ => s

/-- Skips one end of a line. -/
def skipNewline? : Source → Option Source
  | '\n' :: r => some r
  | '\r' :: '\n' :: r => some r
  | _ => none

/-- Skips blanks and line ends. -/
def skipWhiteLines : Source → Source
  | [] => []
  | '\r' :: '\n' :: r => skipWhiteLines r
  | c :: r => if isWhite c || c == '\n' then skipWhiteLines r else c :: r

/-- Exactly `n` hexadecimal digits as a character. -/
def readCodePoint? (n : Nat) (s : Source) : Option (Char × Source) := do
  let digits := s.take n
  if digits.length < n then none
  else do
    let code ← ofDigits? 16 digits
    if code.isValidChar then some (Char.ofNat code, s.drop n) else none

/-- The character that a backslash stands for together with what follows it. -/
def readEscape? : Source → Option (Char × Source)
  | 'b' :: r => some ('\x08', r)
  | 't' :: r => some ('\t', r)
  | 'n' :: r => some ('\n', r)
  | 'f' :: r => some ('\x0c', r)
  | 'r' :: r => some ('\r', r)
  | '"' :: r => some ('"', r)
  | '\\' :: r => some ('\\', r)
  | 'u' :: r => readCodePoint? 4 r
  | 'U' :: r => readCodePoint? 8 r
  | _ => none

/-- The rest of a text in double quotes on one line, up to the closing quote. `fuel` is more than
there are characters. -/
def readBasic : Nat → List Char → Source → Option (List Char × Source)
  | 0, _, _ => none
  | _ + 1, _, [] => none
  | fuel + 1, done, c :: r =>
    if c = '"' then some (done.reverse, r)
    else if c = '\\' then
      (readEscape? r).bind fun (e, r) => readBasic fuel (e :: done) r
    else if isPlain c then readBasic fuel (c :: done) r
    else none

/-- The rest of a text in single quotes on one line. -/
def readLiteral (s : Source) : Option (List Char × Source) :=
  let inside (c : Char) : Bool := isPlain c && c != '\''
  match s.dropWhile inside with
  | '\'' :: r => some (s.takeWhile inside, r)
  | _ => none

/-- How a run of quotes ends a text of several lines: three close it, and up to two in front of them
belong to it. `none` where they do not close it. -/
def closingQuotes? (run : Nat) : Option Nat := if 3 ≤ run ∧ run ≤ 5 then some (run - 3) else none

/-- The rest of a text of several lines in the given quotes. A backslash at the end of a line, where
one counts, takes away all blanks and line ends after it. -/
def readLines (quote : Char) (escapes : Bool) : Nat → List Char → Source →
    Option (List Char × Source)
  | 0, _, _ => none
  | _ + 1, _, [] => none
  | fuel + 1, done, c :: r =>
    if c = quote then
      let run := ((c :: r).takeWhile (· == quote)).length
      let rest := (c :: r).drop run
      if run < 3 then readLines quote escapes fuel (List.replicate run quote ++ done) rest
      else (closingQuotes? run).map fun extra =>
        ((List.replicate extra quote ++ done).reverse, rest)
    else if c = '\\' ∧ escapes then
      match skipNewline? (skipBlanks r) with
      | some r => readLines quote escapes fuel done (skipWhiteLines r)
      | none => (readEscape? r).bind fun (e, r) => readLines quote escapes fuel (e :: done) r
    else
      match skipNewline? (c :: r) with
      | some r => readLines quote escapes fuel ('\n' :: done) r
      | none => if isPlain c then readLines quote escapes fuel (c :: done) r else none

/-- A line end right behind the opening quotes does not belong to the text. -/
def dropFirstNewline (s : Source) : Source := (skipNewline? s).getD s

/-- A text in quotes on one line. -/
def readShortString (s : Source) : Option (String × Source) :=
  match s with
  | '"' :: r => (readBasic (r.length + 1) [] r).map fun (t, r) => (String.ofList t, r)
  | '\'' :: r => (readLiteral r).map fun (t, r) => (String.ofList t, r)
  | _ => none

/-- A text in quotes. -/
def readString (s : Source) : Option (String × Source) :=
  match s with
  | '"' :: '"' :: '"' :: r =>
    (readLines '"' true (r.length + 1) [] (dropFirstNewline r)).map
      fun (t, r) => (String.ofList t, r)
  | '\'' :: '\'' :: '\'' :: r =>
    (readLines '\'' false (r.length + 1) [] (dropFirstNewline r)).map
      fun (t, r) => (String.ofList t, r)
  | _ => readShortString s

/-- Digits in `radix`, at least one. An underscore may stand between two of them. -/
def readDigits (radix : Nat) (s : Source) : Option (List Char × Source) :=
  let isDigit (c : Char) : Bool := (digitIn? radix c).isSome
  let run := s.takeWhile fun c => isDigit c || c == '_'
  let single := !(run.zip run.tail).any fun (a, b) => a == '_' && b == '_'
  if run.isEmpty || run.head? == some '_' || run.getLast? == some '_' || !single then none
  else some (run.filter (· != '_'), s.drop run.length)

/-- Decimal digits without a zero in front of others. -/
def readWhole (s : Source) : Option (List Char × Source) :=
  match s with
  | '0' :: r => some (['0'], r)
  | _ => readDigits 10 s

/-- A sign, if there is one. -/
def readSign : Source → List Char × Source
  | '+' :: r => (['+'], r)
  | '-' :: r => (['-'], r)
  | s => ([], s)

/-- A power of ten. `none` where there is none, an inner `none` where it is cut off. -/
def readPower : Source → Option (Option (List Char × Source))
  | c :: r =>
    if c = 'e' ∨ c = 'E' then
      let (sign, r) := readSign r
      some ((readDigits 10 r).map fun (ds, r) => ('e' :: sign ++ ds, r))
    else none
  | [] => none

/-- Digits behind a point, and a power of ten. -/
def readFraction : Source → Option (Option (List Char × Source))
  | '.' :: r =>
    some do
      let (ds, r) ← readDigits 10 r
      match readPower r with
      | none => return ('.' :: ds, r)
      | some power => do
        let (p, r) ← power
        return ('.' :: ds ++ p, r)
  | s => readPower s

/-- A floating-point number in the digits that were read. One beyond all numbers is refused. -/
def floatOf? (digits : List Char) : Option Value :=
  match readDecimal? digits with
  | some (.infinity false) => none
  | some x => some (.float x)
  | none => none

/-- A whole number that fits 64 bits with a sign. -/
def integerOf? (negative : Bool) (magnitude : Nat) : Option Value :=
  if magnitude ≤ (if negative then Nat.pow 2 63 else Nat.pow 2 63 - 1) then
    some (.integer (if negative then -(magnitude : Int) else magnitude))
  else none

/-- Infinity or not-a-number. -/
def readSpecial? (negative : Bool) : Source → Option (Value × Source)
  | 'i' :: 'n' :: 'f' :: r => some (.float (.infinity negative), r)
  | 'n' :: 'a' :: 'n' :: r => some (.float .nan, r)
  | _ => none

/-- A number in decimal digits. -/
def readDecimalNumber (s : Source) : Option (Value × Source) :=
  let (sign, r) := readSign s
  let negative := sign = ['-']
  match readSpecial? negative r with
  | some result => some result
  | none => do
    let (whole, r) ← readWhole r
    match readFraction r with
    | some fraction => do
      let (f, r) ← fraction
      return (← floatOf? (sign ++ whole ++ f), r)
    | none => do
      let n ← ofDigits? 10 whole
      return (← integerOf? negative n, r)

/-- A whole number behind the mark of its radix. -/
def readRadix (radix : Nat) (s : Source) : Option (Value × Source) := do
  let (ds, r) ← readDigits radix s
  let n ← ofDigits? radix ds
  return (← integerOf? false n, r)

/-- Exactly `n` decimal digits, for a number from `low` to `high`. -/
def readFixed (n low high : Nat) (s : Source) : Option (Nat × Source) := do
  let digits := s.take n
  if digits.length < n then none
  else do
    let v ← ofDigits? 10 digits
    if low ≤ v ∧ v ≤ high then some (v, s.drop n) else none

/-- How many days a month has. -/
def daysIn (year month : Nat) : Nat :=
  let leap := year % 4 = 0 ∧ (year % 100 ≠ 0 ∨ year % 400 = 0)
  if month = 2 then (if leap then 29 else 28)
  else if [4, 6, 9, 11].contains month then 30 else 31

def readDate (s : Source) : Option (Date × Source) := do
  let (year, s) ← readFixed 4 0 9999 s
  let '-' :: s := s | none
  let (month, s) ← readFixed 2 1 12 s
  let '-' :: s := s | none
  let (day, s) ← readFixed 2 1 (daysIn year month) s
  return (⟨year, month, day⟩, s)

/-- Fractions of a second; digits beyond the ninth are dropped. -/
def readNanoseconds (s : Source) : Option (Nat × Source) :=
  match s with
  | '.' :: r => do
    let digits := r.takeWhile fun c => (digit? c).isSome
    if digits.isEmpty then none
    else do
      let kept := digits.take 9
      let n ← ofDigits? 10 kept
      return (n * Nat.pow 10 (9 - kept.length), r.drop digits.length)
  | _ => some (0, s)

def readTimeOfDay (s : Source) : Option (TimeOfDay × Source) := do
  let (hour, s) ← readFixed 2 0 23 s
  let ':' :: s := s | none
  let (minute, s) ← readFixed 2 0 59 s
  let ':' :: s := s | none
  let (second, s) ← readFixed 2 0 60 s
  let (nanosecond, s) ← readNanoseconds s
  return (⟨hour, minute, second, nanosecond⟩, s)

/-- An offset, if there is one. -/
def readOffset (s : Source) : Option (Option Offset × Source) :=
  match s with
  | 'Z' :: r | 'z' :: r => some (some .universal, r)
  | c :: r =>
    if c = '+' ∨ c = '-' then do
      let (hours, r) ← readFixed 2 0 23 r
      let ':' :: r := r | none
      let (minutes, r) ← readFixed 2 0 59 r
      let n : Int := hours * 60 + minutes
      return (some (.minutes (if c = '-' then -n else n)), r)
    else some (none, s)
  | [] => some (none, s)

/-- A date, a time of day, or both. -/
def readDateTime (s : Source) : Option (Value × Source) :=
  match readDate s with
  | some (date, r) =>
    let time? := match r with
      | c :: r => if c = 'T' ∨ c = 't' ∨ c = ' ' then readTimeOfDay r else none
      | [] => none
    match time? with
    | some (time, r) => do
      let (offset, r) ← readOffset r
      return (.dateTime ⟨some date, some time, offset⟩, r)
    | none => some (.dateTime ⟨some date, none, none⟩, r)
  | none => (readTimeOfDay s).map fun (time, r) => (.dateTime ⟨none, some time, none⟩, r)

/-- A number, a date or a time. -/
def readNumber (s : Source) : Option (Value × Source) :=
  match readDateTime s with
  | some result => some result
  | none =>
    match s with
    | '0' :: 'x' :: r => readRadix 16 r
    | '0' :: 'o' :: r => readRadix 8 r
    | '0' :: 'b' :: r => readRadix 2 r
    | _ => readDecimalNumber s

end HttpGateway.Toml
