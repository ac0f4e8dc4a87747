/-
Values of configuration files.

* **Value** — a text, a number, a truth value, a date or time, an array, or a table.
* **DateTime** — a date, a time of day, or both with or without an offset.
* **Value.fields?** — what a value is made of where a table is expected. A date or time stands for a
  table with one entry, its text.
-/
import HttpGateway.Number.Decimal

namespace HttpGateway.Toml

open Number Text

/-- A day. -/
structure Date where
  year : Nat
  month : Nat
  day : Nat
deriving DecidableEq, Repr

/-- A time of day. -/
structure TimeOfDay where
  hour : Nat
  minute : Nat
  second : Nat
  nanosecond : Nat
deriving DecidableEq, Repr

/-- How far a time is ahead of universal time: not at all, or by some minutes. -/
inductive Offset
  | universal
  | minutes (n : Int)
deriving DecidableEq, Repr

/-- A date, a time of day, or both. -/
structure DateTime where
  date : Option Date
  time : Option TimeOfDay
  offset : Option Offset
deriving DecidableEq, Repr

/-- Digits of a number, filled up with zeros. -/
def padded (width n : Nat) : List Char :=
  let ds := decimal n
  List.replicate (width - ds.length) '0' ++ ds

def Date.text (d : Date) : List Char :=
  padded 4 d.year ++ '-' :: padded 2 d.month ++ '-' :: padded 2 d.day

def TimeOfDay.text (t : TimeOfDay) : List Char :=
  let fraction := if t.nanosecond = 0 then [] else '.' :: dropTrailingZeros (padded 9 t.nanosecond)
  padded 2 t.hour ++ ':' :: padded 2 t.minute ++ ':' :: padded 2 t.second ++ fraction

def Offset.text : Offset → List Char
  | universal => ['Z']
  | minutes n =>
    (if n < 0 then '-' else '+') :: padded 2 (n.natAbs / 60) ++ ':' :: padded 2 (n.natAbs % 60)

/-- The text of a date or time. -/
def DateTime.text (d : DateTime) : List Char :=
  let date := (d.date.map Date.text).getD []
  let mark := if d.date.isSome && d.time.isSome then ['T'] else []
  date ++ mark ++ (d.time.map TimeOfDay.text).getD [] ++ (d.offset.map Offset.text).getD []

/-- A value of a configuration file. -/
inductive Value
  | text (s : String)
  | integer (n : Int)
  | float (x : Floating)
  | boolean (b : Bool)
  | dateTime (d : DateTime)
  | array (elements : List Value)
  | table (entries : List (String × Value))
deriving Repr, Inhabited

/-- The name of the entry that a date or time stands for. -/
def dateTimeEntry : String := "$__toml_private_datetime"

namespace Value

/-- The entries of a value where a table is expected. -/
def fields? : Value → Option (List (String × Value))
  | table entries => some entries
  | dateTime d => some [(dateTimeEntry, text (String.ofList d.text))]
  | _ => none

/-- Whether a value is an array or a table without anything in it. -/
def isEmpty : Value → Bool
  | array elements => elements.isEmpty
  | table entries => entries.isEmpty
  | _ => false

end Value

end HttpGateway.Toml
