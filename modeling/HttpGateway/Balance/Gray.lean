/-
Gray releases: sending some of the requests to instances of their own.

* **GrayPolicy** — up to four strategies: a field with one of the given values, a share of the
  users, ranges of client addresses, a share of the requests.
* **GrayPolicy.evaluate** — whether a request is gray. The strategies are tried in that order; the
  first one that holds decides. Users and requests are spread over a hundred buckets by a hash, so
  that a user stays in one group everywhere.
-/
import HttpGateway.Hash.Xxh3
import HttpGateway.Http.Field
import HttpGateway.Settings.Schema
import HttpGateway.Text.Blank

namespace HttpGateway.Balance

open Http Settings

/-- A field that a strategy needs is no text. -/
structure GrayError where
  field : String
deriving DecidableEq, Repr, Inhabited

/-- The wording of the error. -/
def GrayError.message (e : GrayError) : String := "header '" ++ e.field ++ "' is not valid UTF-8"

/-- Which requests are gray. -/
structure GrayPolicy where
  enabled : Bool
  header : Option HeaderRule
  userPercentage : Option Nat
  addressRanges : Option (List String)
  requestPercentage : Option Nat
deriving DecidableEq, Repr, Inhabited

/-- The policy of a route. A rule whose field has no valid name is left out. -/
def GrayPolicy.ofSpec (spec : GrayRelease) : GrayPolicy where
  enabled := spec.enabled
  header := spec.header.bind fun rule =>
    (fieldName? rule.name).map fun name => ⟨name, rule.values⟩
  userPercentage := spec.userPercentage
  addressRanges := spec.addressRanges
  requestPercentage := spec.requestPercentage

/-- The first line of a field. -/
def fieldText (h : Fields) (name : String) : Except GrayError (Option String) :=
  match h.get? name with
  | none => .ok none
  | some v =>
    match v.text? with
    | some s => .ok (some s)
    | none => .error ⟨name⟩

/-- The first of several fields that is there. -/
def firstText (h : Fields) : List String → Except GrayError (Option String)
  | [] => .ok none
  | name :: names =>
    match fieldText h name with
    | .error e => .error e
    | .ok (some s) => .ok (some s)
    | .ok none => firstText h names

/-- The bucket of a user or a request, below a hundred. -/
def bucket (key : String) : Nat := Hash.Xxh3.bucket key.toList

/-- Whether an address is in a range: equal to it, or starting with what stands before the asterisks
at its end. -/
def inRange (address range : String) : Bool :=
  let stem := Text.trimEnd (· == '*') range.toList
  range == "*" || address == range || (!stem.isEmpty && stem.isPrefixOf address.toList)

namespace GrayPolicy

/-- Whether a field has one of the values of the rule. -/
def headerHolds (rule : HeaderRule) (h : Fields) : Except GrayError Bool := do
  match ← fieldText h rule.name with
  | some value => return rule.values.contains value
  | none => return false

/-- Whether the user is in the given share of all users. -/
def userHolds (percentage : Nat) (h : Fields) : Except GrayError Bool := do
  match ← firstText h ["user-id", "x-user-id"] with
  | some user => return bucket user < percentage
  | none => return false

/-- Whether the request is in the given share of all requests. -/
def requestHolds (percentage : Nat) (h : Fields) : Except GrayError Bool := do
  match ← firstText h ["request-id", "x-request-id"] with
  | some request => return bucket request < percentage
  | none => return false

/-- A strategy that is not set never holds. -/
def optionally {α : Type} (strategy : Option α) (holds : α → Except GrayError Bool) :
    Except GrayError Bool :=
  match strategy with
  | some a => holds a
  | none => .ok false

/-- Whether a request is gray. -/
def evaluate (p : GrayPolicy) (h : Fields) (client : String) : Except GrayError Bool := do
  if ← optionally p.header (headerHolds · h) then return true
  else if ← optionally p.userPercentage (userHolds · h) then return true
  else if (p.addressRanges.getD []).any (inRange client) then return true
  else optionally p.requestPercentage (requestHolds · h)

end GrayPolicy

end HttpGateway.Balance
