/-
Targets of requests.

* **Target** — a path with a query on the server itself, an asterisk, an absolute address, or an
  authority alone.
* **Target.parse** — reads a target. The part behind `#` is dropped.
* **Target.text** — the written form.
* **Target.host**, **Target.port?** — where an authority leads.
* **Target.pathAndQuery** — what a request with the target asks its server for.
-/
import HttpGateway.Text.Numeral
import HttpGateway.Text.Utf8

namespace HttpGateway.Http

open Text

/-- The target of a request. `rawPath` is empty where an authority stands alone, or where nothing
follows the authority of an absolute address. -/
structure Target where
  scheme : Option (List Char)
  authority : Option (List Char)
  rawPath : List Char
  query : Option (List Char)
deriving DecidableEq, Repr, Inhabited

/-- Why a text is no target. -/
inductive TargetError
  | invalidCharacter
  | invalidAuthority
  | invalidFormat
  | schemeTooLong
  | tooLong
  | empty
deriving DecidableEq, Repr

/-- The wording of each cause. -/
def TargetError.message : TargetError → String
  | invalidCharacter => "invalid uri character"
  | invalidAuthority => "invalid authority"
  | invalidFormat => "invalid format"
  | schemeTooLong => "scheme too long"
  | tooLong => "uri too long"
  | empty => "empty string"

/-- The most bytes that a target may have. -/
def longestTarget : Nat := 65534

/-- The most characters that a scheme may have. -/
def longestScheme : Nat := 64

/-- Whether the path of a target may hold a character. -/
def isTargetPathChar (c : Char) : Bool :=
  let n := c.toNat
  n == 0x21 || n == 0x22 || (0x24 ≤ n && n ≤ 0x3B) || n == 0x3D || (0x40 ≤ n && n ≤ 0x5F) ||
    0x61 ≤ n

/-- Whether the query of a target may hold a character. -/
def isTargetQueryChar (c : Char) : Bool :=
  let n := c.toNat
  n == 0x21 || (0x24 ≤ n && n ≤ 0x3B) || n == 0x3D || 0x3F ≤ n

/-- Path and query, up to `#`. -/
def readPathAndQuery (s : List Char) :
    Except TargetError (List Char × Option (List Char)) :=
  let path := s.takeWhile fun c => !(c == '?' || c == '#')
  let query? := match s.drop path.length with
    | '?' :: rest => some (rest.takeWhile (· != '#'))
    | _ => none
  if !path.all isTargetPathChar then .error .invalidCharacter
  else match query? with
    | none => .ok (path, none)
    | some q => if q.all isTargetQueryChar then .ok (path, some q) else .error .invalidCharacter

/-- Whether an authority may hold a character other than `%`. -/
def isAuthorityChar (c : Char) : Bool :=
  c.isAlphanum || "!$&'()*+,-.:;=@[]_~".toList.contains c

/-- What has been seen of an authority: the colons since the last `@` or bracket, the brackets, a
`%` since the last `@` or bracket, and whether `@` was the last character. -/
structure AuthorityScan where
  colons : Nat
  opened : Bool
  closed : Bool
  percent : Bool
  endsInAt : Bool

def AuthorityScan.step (s : AuthorityScan) (c : Char) : Except TargetError AuthorityScan :=
  let s := { s with endsInAt := false }
  if c = ':' then
    if 8 ≤ s.colons then .error .invalidAuthority else .ok { s with colons := s.colons + 1 }
  else if c = '[' then
    if s.percent || s.opened then .error .invalidAuthority else .ok { s with opened := true }
  else if c = ']' then
    if !s.opened || s.closed then .error .invalidAuthority
    else .ok { s with closed := true, colons := 0, percent := false }
  else if c = '@' then .ok { s with colons := 0, percent := false, endsInAt := true }
  else if c = '%' then .ok { s with percent := true }
  else if isAuthorityChar c then .ok s
  else .error .invalidCharacter

/-- The authority at the start of a text and what follows it. -/
def readTargetAuthority (s : List Char) : Except TargetError (List Char × List Char) := do
  let authority := s.takeWhile fun c => !(c == '/' || c == '?' || c == '#')
  let scan ← authority.foldlM AuthorityScan.step ⟨0, false, false, false, false⟩
  if scan.opened != scan.closed || 1 < scan.colons || scan.endsInAt || scan.percent then
    .error .invalidAuthority
  else return (authority, s.drop authority.length)

/-- The scheme at the start of a text and what follows the two slashes behind it. -/
def readTargetScheme (s : List Char) : Except TargetError (Option (List Char) × List Char) :=
  let inScheme (c : Char) : Bool := c.isAlphanum || c == '+' || c == '-' || c == '.'
  let scheme := s.takeWhile inScheme
  match s.drop scheme.length with
  | ':' :: '/' :: '/' :: rest =>
    let lower := scheme.map Char.toLower
    if lower = "http".toList ∨ lower = "https".toList then .ok (some lower, rest)
    else if longestScheme < scheme.length then .error .schemeTooLong
    else .ok (some scheme, rest)
  | _ => .ok (none, s)

/-- What stands behind the last separator. -/
def behindLast? (separator : Char) : List Char → Option (List Char)
  | [] => none
  | c :: rest =>
    (behindLast? separator rest).or (if c = separator then some rest else none)

namespace Target

/-- Reads a target. -/
def parse (s : List Char) : Except TargetError Target := do
  if longestTarget < (utf8 s).length then .error .tooLong
  else match s with
    | [] => .error .empty
    | ['*'] => return ⟨none, none, ['*'], none⟩
    | '/' :: _ =>
      let (path, query) ← readPathAndQuery s
      return ⟨none, none, path, query⟩
    | _ =>
      let (scheme, rest) ← readTargetScheme s
      let (authority, rest) ← readTargetAuthority rest
      if scheme.isNone then
        if rest.isEmpty then return ⟨none, some authority, [], none⟩ else .error .invalidFormat
      else if authority.isEmpty then .error .invalidFormat
      else
        let (path, query) ← readPathAndQuery rest
        return ⟨scheme, some authority, path, query⟩

/-- The path of a target. An absolute address always has one; an authority alone has none. -/
def path (t : Target) : List Char :=
  if t.rawPath.isEmpty && t.scheme.isSome then ['/'] else t.rawPath

/-- The written form of a target. -/
def text (t : Target) : List Char :=
  let scheme := match t.scheme with
    | some s => s ++ "://".toList
    | none => []
  let query := match t.query with
    | some q => '?' :: q
    | none => []
  scheme ++ t.authority.getD [] ++ t.path ++ query

/-- The host of the authority: what stands behind any `@`, up to the bracket that closes an address
or else up to a colon. -/
def host (t : Target) : List Char :=
  let authority := t.authority.getD []
  let site := (behindLast? '@' authority).getD authority
  if site.head? = some '[' then site.takeWhile (· ≠ ']') ++ [']'] else site.takeWhile (· ≠ ':')

/-- The port of the authority, as it is written and as a number: what stands behind the last
colon. -/
def port? (t : Target) : Option (List Char × Nat) :=
  (behindLast? ':' (t.authority.getD [])).bind fun written =>
    (unsigned? 65536 written).map (written, ·)

/-- The path with the query behind it. -/
def pathAndQuery (t : Target) : List Char := t.path ++ t.query.elim [] ('?' :: ·)

end Target

end HttpGateway.Http
