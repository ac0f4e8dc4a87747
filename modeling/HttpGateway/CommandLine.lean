/-
Arguments of the command line.

* **Options** — which settings to take, what to log, and whether only to check the settings.
* **Options.read** — reads the arguments. A value stands behind its option, or is joined to it by an
  equals sign.
-/
namespace HttpGateway

/-- What the command line asks for. -/
structure Options where
  config : Option String := none
  logLevel : Option String := none
  checkOnly : Bool := false
deriving DecidableEq, Repr, Inhabited

/-- Why the arguments make no sense. -/
inductive OptionsError
  | missingValue (option : String)
  | unexpected (argument : String)
deriving DecidableEq, Repr

/-- The wording of a cause. -/
def OptionsError.message : OptionsError → String
  | missingValue option => "a value is required for '" ++ option ++ "' but none was supplied"
  | unexpected argument => "unexpected argument '" ++ argument ++ "' found"

namespace Options

/-- An argument with its value, if that is joined to it. -/
def split (argument : String) : String × Option String :=
  let cs := argument.toList
  let name := cs.takeWhile (· ≠ '=')
  if name.length < cs.length then
    (String.ofList name, some (String.ofList (cs.drop (name.length + 1))))
  else (argument, none)

/-- The field that an option with a value sets. -/
def setter? (name : String) : Option (Options → String → Options) :=
  if name = "--config" ∨ name = "-c" then some fun o v => { o with config := some v }
  else if name = "--log-level" then some fun o v => { o with logLevel := some v }
  else none

/-- Reads arguments after others. -/
def readFrom (o : Options) : List String → Except OptionsError Options
  | [] => .ok o
  | "--check" :: rest => readFrom { o with checkOnly := true } rest
  | [argument] =>
    match setter? (split argument).1, (split argument).2 with
    | none, _ => .error (.unexpected argument)
    | some set, some value => .ok (set o value)
    | some _, none => .error (.missingValue argument)
  | argument :: next :: rest =>
    match setter? (split argument).1, (split argument).2 with
    | none, _ => .error (.unexpected argument)
    | some set, some value => readFrom (set o value) (next :: rest)
    | some set, none => readFrom (set o next) rest

/-- Reads the arguments. -/
def read (arguments : List String) : Except OptionsError Options := readFrom {} arguments

end Options

end HttpGateway
