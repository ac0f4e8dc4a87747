/-
Settings from a configuration file.

* **LoadError** — why a file gives no settings.
* **Settings.parse** — the settings in a text; they have to make sense with the built-in filters.
* **Settings.load** — the settings in the bytes of a file.
-/
import HttpGateway.Filter.Chain
import HttpGateway.Settings.Check
import HttpGateway.Settings.Decode
import HttpGateway.Toml.Reader

namespace HttpGateway

namespace Settings

/-- Why a file gives no settings. -/
inductive LoadError
  | unreadable
  | malformed
  | invalid (problems : List Problem)
deriving DecidableEq, Repr

/-- The wording of a cause. -/
def LoadError.message : LoadError → String
  | unreadable => "IO error"
  | malformed => "Parse error"
  | invalid problems => "Validation failed: " ++ ", ".intercalate (problems.map Problem.text)

/-- Settings that make sense with the known filters. -/
def accept (s : Settings) (known : List String) : Except LoadError Settings :=
  match s.problems known with
  | [] => .ok s
  | problems => .error (.invalid problems)

/-- The settings in a text. -/
def parse (text : String) : Except LoadError Settings :=
  match (Toml.parse text).bind decode with
  | none => .error .malformed
  | some s => s.accept Filter.builtinNames

/-- The settings in a file; `none` stands for a file that is not there. -/
def load (file : Option ByteArray) : Except LoadError Settings :=
  match file.bind String.fromUTF8? with
  | none => .error .unreadable
  | some text => parse text

end Settings

end HttpGateway
