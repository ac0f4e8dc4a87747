/-
Where a route is mounted, and what is left of a path below it.

* **underMount** — whether a path is the mount itself or lies below it. A mount never matches in
  the middle of a segment.
* **mountDepth** — the number of segments of a mount.
* **backendTarget** — the path below the mount put behind the base path of an instance, with the
  query.
-/
import HttpGateway.Text.Blank

namespace HttpGateway.Route

open Text

/-- Whether a path is the mount itself or lies below it: what follows the mount starts with a slash,
unless the mount ends with one. -/
def underMount (mount path : List Char) : Bool :=
  path == mount ||
    (mount.isPrefixOf path &&
      (mount.getLast? == some '/' || (path.drop mount.length).head? == some '/'))

/-- The parts of a path between its slashes, without the empty ones. -/
def segments (path : List Char) : List (List Char) :=
  (path.splitOn '/').filter fun s => !s.isEmpty

/-- The number of segments of a mount. -/
def mountDepth (mount : List Char) : Nat := (segments mount).length

/-- A path without the slashes at its end. -/
def withoutTrailingSlashes (path : List Char) : List Char := trimEnd (· == '/') path

/-- The path of the request to an instance: the base path of the instance, then the segments of the
request's path that are left after `depth` of them. A slash at the end stays where a segment is
left. -/
def backendPath (path : List Char) (depth : Nat) (base : List Char) : List Char :=
  let left := (segments path).drop depth
  let tail := if !left.isEmpty && path.getLast? == some '/' then ['/'] else []
  withoutTrailingSlashes base ++ '/' :: ['/'].intercalate left ++ tail

/-- The path of the request to an instance with the query behind it. -/
def backendTarget (path : List Char) (query : Option (List Char)) (depth : Nat)
    (base : List Char) : List Char :=
  match query with
  | some q => backendPath path depth base ++ '?' :: q
  | none => backendPath path depth base

end HttpGateway.Route
