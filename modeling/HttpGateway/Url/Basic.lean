/-
Absolute URLs.

* **Url** — the parts of a URL, each in the encoded form in which it is written.
* **Url.parse** — reads a URL: blanks around it and line ends within it are dropped, a backslash is
  a slash where the scheme is special, dot segments are resolved, and what may not stand as it is
  gets percent-encoded.
* **Url.text** — the written form of a URL with a host.
* **Url.effectivePort?** — the port to connect to.
-/
import HttpGateway.Text.Blank
import HttpGateway.Url.Host

namespace HttpGateway

/-- A URL. The port is absent where it is the default one of the scheme. -/
structure Url where
  scheme : List Char
  username : List Char
  password : List Char
  host : Option Url.Host
  port : Option Nat
  path : List Char
  query : Option (List Char)
  fragment : Option (List Char)
deriving DecidableEq, Repr

namespace Url

open Text

/-- How a URL is read depends on its scheme. -/
inductive SchemeKind
  | special
  | file
  | other
deriving DecidableEq

def schemeKind (scheme : List Char) : SchemeKind :=
  if scheme = "file".toList then .file
  else if ["http", "https", "ws", "wss", "ftp"].any (·.toList = scheme) then .special
  else .other

/-- The port that a scheme stands for. -/
def defaultPort? (scheme : List Char) : Option Nat :=
  if scheme = "http".toList ∨ scheme = "ws".toList then some 80
  else if scheme = "https".toList ∨ scheme = "wss".toList then some 443
  else if scheme = "ftp".toList then some 21
  else none

/-- Whether a character separates path segments. -/
def isSlash (kind : SchemeKind) (c : Char) : Bool :=
  c == '/' || (c == '\\' && kind ≠ .other)

/-- Whether a character ends the part with the host. -/
def endsAuthority (kind : SchemeKind) (c : Char) : Bool :=
  isSlash kind c || c == '?' || c == '#'

/-- The scheme in lower case and what follows its colon. -/
def readScheme? (s : List Char) : Option (List Char × List Char) :=
  let inScheme (c : Char) : Bool := c.isAlphanum || c == '+' || c == '-' || c == '.'
  match s.takeWhile inScheme, s.dropWhile inScheme with
  | c :: scheme, ':' :: rest =>
    if c.isAlpha then some ((c :: scheme).map Char.toLower, rest) else none
  | _, _ => none

/-- The part before the last `@` and the part after it. -/
def splitUserinfo (authority : List Char) : Option (List Char × List Char) :=
  let after := (authority.reverse.takeWhile (· ≠ '@')).reverse
  if after.length < authority.length then
    some (authority.take (authority.length - after.length - 1), after)
  else none

/-- The end of the host in an authority: a colon outside brackets. -/
def splitHost (bracketed : Bool) : List Char → List Char × List Char
  | [] => ([], [])
  | c :: rest =>
    if c = ':' ∧ !bracketed then ([], c :: rest)
    else
      let bracketed := if c = '[' then true else if c = ']' then false else bracketed
      let (host, after) := splitHost bracketed rest
      (c :: host, after)

/-- The port that follows the host; absent where nothing follows the colon or it is the default. -/
def readPort (scheme : List Char) (s : List Char) : Except ParseError (Option Nat) :=
  match s with
  | [] | [':'] => .ok none
  | _ :: digits =>
    if !digits.all (digit? · |>.isSome) then .error .invalidPort
    else match (ofDigits? 10 digits).filter (· < 65536) with
      | none => .error .invalidPort
      | some port => .ok (if defaultPort? scheme = some port then none else some port)

/-- Whether a segment stands for the one it is in. -/
def isSingleDot (segment : List Char) : Bool :=
  [".", "%2e"].any (·.toList = segment.map Char.toLower)

/-- Whether a segment stands for the one above. -/
def isDoubleDot (segment : List Char) : Bool :=
  ["..", ".%2e", "%2e.", "%2e%2e"].any (·.toList = segment.map Char.toLower)

/-- Resolves dot segments. `done` are the segments before, the last one in front. -/
def resolveSegments (done : List (List Char)) : List (List Char) → List (List Char)
  | [] => done.reverse
  | segment :: rest =>
    let done :=
      if isDoubleDot segment then
        if rest.isEmpty then [] :: done.tail else done.tail
      else if isSingleDot segment then
        if rest.isEmpty then [] :: done else done
      else Percent.encode Percent.pathSet segment :: done
    resolveSegments done rest

/-- The path that segments stand for. -/
def resolvePath (kind : SchemeKind) (s : List Char) : List Char :=
  '/' :: ['/'].intercalate (resolveSegments [] (s.splitOnP (isSlash kind)))

/-- The path behind the host. A special URL always has one. -/
def readPath (kind : SchemeKind) (s : List Char) : List Char :=
  match s with
  | [] => if kind = .other then [] else ['/']
  | c :: rest => resolvePath kind (if isSlash kind c then rest else c :: rest)

/-- The path, the query and the fragment of what follows the host. -/
def splitTail (s : List Char) : List Char × Option (List Char) × Option (List Char) :=
  let beforeFragment := s.takeWhile (· ≠ '#')
  let path := beforeFragment.takeWhile (· ≠ '?')
  let after (whole part : List Char) : Option (List Char) :=
    if part.length < whole.length then some (whole.drop (part.length + 1)) else none
  (path, after beforeFragment path, after s beforeFragment)

/-- Adds query and fragment to a URL. -/
def withTail (url : Url) (query fragment : Option (List Char)) : Url :=
  let set := if schemeKind url.scheme = .other then Percent.querySet else Percent.specialQuerySet
  { url with
    query := query.map (Percent.encode set)
    fragment := fragment.map (Percent.encode Percent.fragmentSet) }

/-- Reads the authority and all that follows it. -/
def readAuthority (scheme : List Char) (s : List Char) : Except ParseError Url := do
  let kind := schemeKind scheme
  let authority := s.takeWhile (!endsAuthority kind ·)
  let (path, query, fragment) := splitTail (s.dropWhile (!endsAuthority kind ·))
  let (username, password, rest) := match splitUserinfo authority with
    | none => ([], [], authority)
    | some (userinfo, rest) =>
      let name := userinfo.takeWhile (· ≠ ':')
      (name, userinfo.drop (name.length + 1), rest)
  let hasUserinfo := !username.isEmpty || !password.isEmpty
  let (hostText, afterHost) := splitHost false rest
  -- a backslash ends the port even where it is no slash
  let portText := afterHost.takeWhile (· ≠ '\\')
  let path := afterHost.drop portText.length ++ path
  -- a lone `@` counts as credentials only if something follows it
  let loneAt := authority = ['@'] && !(path.isEmpty && query.isNone && fragment.isNone)
  if hostText.isEmpty &&
      (kind = .special || !portText.isEmpty || hasUserinfo || loneAt) then
    .error .emptyHost
  else do
    let host ← if kind = .special then Host.parse hostText else Host.parseOpaque hostText
    let port ← readPort scheme portText
    let url : Url :=
      { scheme, port
        username := Percent.encode Percent.userinfoSet username
        password := Percent.encode Percent.userinfoSet password
        host := if hostText.isEmpty then none else some host
        path := readPath kind path
        query := none
        fragment := none }
    return withTail url query fragment

/-- A URL without a host. -/
def hostless (scheme path : List Char) (query fragment : Option (List Char)) : Url :=
  withTail ⟨scheme, [], [], none, none, path, none, none⟩ query fragment

/-- Whether a text is a letter with a colon or a bar behind it, which names a disk and no host. -/
def isDrive : List Char → Bool
  | [c, d] => c.isAlpha && (d == ':' || d == '|')
  | _ => false

/-- Reads what follows the scheme of a `file` URL. A path on a disk makes the host meaningless. -/
def readFile (scheme : List Char) (s : List Char) : Except ParseError Url := do
  let (path, query, fragment) := splitTail s
  match path with
  | a :: b :: rest =>
    if isSlash .file a && isSlash .file b then
      let hostText := rest.takeWhile (!isSlash .file ·)
      let afterHost := rest.dropWhile (!isSlash .file ·)
      if isDrive hostText then
        return hostless scheme (readPath .file rest) query fragment
      else if hostText.isEmpty then
        return hostless scheme (readPath .file afterHost) query fragment
      else
        let host ← Host.parse hostText
        let url := hostless scheme (readPath .file afterHost) query fragment
        let onDrive := isDrive (url.path.tail.takeWhile (· ≠ '/'))
        return if onDrive || host = .domain "localhost".toList then url
          else { url with host := some host }
    else return hostless scheme (readPath .file path) query fragment
  | _ => return hostless scheme (readPath .file path) query fragment

/-- Reads what follows the scheme of a URL whose scheme is not special. -/
def readOther (scheme : List Char) (s : List Char) : Except ParseError Url :=
  match s with
  | '/' :: '/' :: rest => readAuthority scheme rest
  | _ =>
    let (path, query, fragment) := splitTail s
    .ok (match path with
      | '/' :: _ => hostless scheme (readPath .other path) query fragment
      | _ => hostless scheme (Percent.encode Percent.controlSet path) query fragment)

/-- Drops control characters and blanks around a text, and tabs and line ends within it. -/
def clean (s : List Char) : List Char :=
  let outside (c : Char) : Bool := c.toNat ≤ 0x20
  (trimEnd outside (trimStart outside s)).filter fun c => !(c == '\t' || c == '\n' || c == '\x0d')

/-- Reads an absolute URL. -/
def parse (s : List Char) : Except ParseError Url :=
  match readScheme? (clean s) with
  | none => .error .noScheme
  | some (scheme, rest) =>
    match schemeKind scheme with
    | .special => readAuthority scheme (rest.dropWhile (isSlash .special))
    | .file => readFile scheme rest
    | .other => readOther scheme rest

/-- Everything before the path. -/
def origin (u : Url) : List Char :=
  let user := u.username ++ (if u.password.isEmpty then [] else ':' :: u.password)
  let host := match u.host with
    | some h => h.text
    | none => []
  let port := match u.port with
    | some p => ':' :: decimal p
    | none => []
  u.scheme ++ "://".toList ++ (if user.isEmpty then [] else user ++ ['@']) ++ host ++ port

/-- The written form of a URL with a host. -/
def text (u : Url) : List Char :=
  let query := match u.query with
    | some q => '?' :: q
    | none => []
  let fragment := match u.fragment with
    | some f => '#' :: f
    | none => []
  u.origin ++ u.path ++ query ++ fragment

/-- The port to connect to: the one in the URL, else the default one of the scheme. -/
def effectivePort? (u : Url) : Option Nat :=
  match u.port with
  | some p => some p
  | none => defaultPort? u.scheme

end Url

end HttpGateway
