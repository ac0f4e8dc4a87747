/-
Network addresses and their texts.

* **IpAddress** — a version 4 address of four octets or a version 6 address of eight groups.
* **IpAddress.text** — the usual text: the longest run of zero groups is left out, and an address
  that stands for one of version 4 ends in dotted octets.
* **SocketAddress.parse?** — reads an address with a port, version 6 addresses in brackets.
-/
import HttpGateway.Text.Numeral

namespace HttpGateway.Net

open Text

/-- An address of a host. Octets and groups stand from the most significant one on. -/
inductive IpAddress
  | v4 (octets : List Nat)
  | v6 (groups : List Nat)
deriving DecidableEq, Repr, Inhabited

/-- An address of a host and a port on it. -/
structure SocketAddress where
  ip : IpAddress
  port : Nat
deriving DecidableEq, Repr, Inhabited

/-- The texts of numbers with a separator between each two. -/
def joinNumbers (sep : Char) (radix : Nat) (ns : List Nat) : List Char :=
  [sep].intercalate (ns.map fun n => digitsOnto radix n [])

/-- Start and length of each run of zeros in a list whose first element has index `i`. -/
def zeroRuns (i : Nat) : List Nat → List (Nat × Nat)
  | [] => []
  | g :: rest =>
    if g ≠ 0 then zeroRuns (i + 1) rest
    else match zeroRuns (i + 1) rest with
      | (j, n) :: runs => if j = i + 1 then (i, n + 1) :: runs else (i, 1) :: (j, n) :: runs
      | [] => [(i, 1)]

/-- The first of the longest runs of at least two zeros. -/
def longestZeroRun? (groups : List Nat) : Option (Nat × Nat) :=
  (zeroRuns 0 groups).foldl
    (fun best r => if r.2 < 2 then best
      else match best with
        | some b => if b.2 < r.2 then some r else best
        | none => some r) none

/-- The groups in lower-case hexadecimal digits, the longest run of zeros left out. -/
def groupsText (groups : List Nat) : List Char :=
  match longestZeroRun? groups with
  | none => joinNumbers ':' 16 groups
  | some (start, length) =>
    joinNumbers ':' 16 (groups.take start) ++ "::".toList ++
      joinNumbers ':' 16 (groups.drop (start + length))

/-- The octets with points between them. -/
def octetsText (octets : List Nat) : List Char := joinNumbers '.' 10 octets

namespace IpAddress

/-- The text of an address. -/
def text : IpAddress → List Char
  | v4 octets => octetsText octets
  | v6 groups =>
    match groups with
    | [0, 0, 0, 0, 0, 0xffff, a, b] =>
      "::ffff:".toList ++ octetsText [a / 256, a % 256, b / 256, b % 256]
    | _ => groupsText groups

/-- The address of the host itself. -/
def loopback : IpAddress := v4 [127, 0, 0, 1]

end IpAddress

/-- Digits in `radix`, no more than `most`, for a number below `bound`; with what is left. -/
def readNumber (radix most bound : Nat) (s : List Char) : Option (Nat × List Char) := do
  let isDigit (c : Char) : Bool := (digitIn? radix c).isSome
  let ds := s.takeWhile isDigit
  if ds.isEmpty || most < ds.length then none
  else do
    let n ← ofDigits? radix ds
    if n < bound then some (n, s.dropWhile isDigit) else none

/-- One octet in decimal digits without a leading zero. -/
def readOctet (s : List Char) : Option (Nat × List Char) :=
  match s with
  | '0' :: c :: _ => if (digit? c).isSome then none else readNumber 10 3 256 s
  | _ => readNumber 10 3 256 s

/-- Four octets with points between them. -/
def readOctets (s : List Char) : Option (List Nat × List Char) := do
  let (a, s) ← readOctet s
  let '.' :: s := s | none
  let (b, s) ← readOctet s
  let '.' :: s := s | none
  let (c, s) ← readOctet s
  let '.' :: s := s | none
  let (d, s) ← readOctet s
  return ([a, b, c, d], s)

/-- Up to `most` groups with colons between them, `first` telling whether the next one is the first.
Four octets may stand for the last two groups. The result tells whether they did. -/
def readGroups (first : Bool) : Nat → List Char → List Nat × Bool × List Char
  | 0, s => ([], false, s)
  | most + 1, s =>
    let afterColon? := if first then some s
      else match s with
        | ':' :: r => some r
        | _ => none
    match afterColon? with
    | none => ([], false, s)
    | some r =>
      match (if most = 0 then none else readOctets r) with
      | some ([a, b, c, d], rest) => ([a * 256 + b, c * 256 + d], true, rest)
      | _ =>
        match readNumber 16 4 65536 r with
        | none => ([], false, s)
        | some (g, rest) =>
          let (gs, dotted, rest) := readGroups false most rest
          (g :: gs, dotted, rest)

/-- Eight groups, or fewer of them around a double colon. -/
def readV6 (s : List Char) : Option (List Nat × List Char) :=
  let (head, dotted, rest) := readGroups true 8 s
  if head.length = 8 then some (head, rest)
  else if dotted then none
  else match rest with
    | ':' :: ':' :: rest =>
      let (tail, _, rest) := readGroups true (7 - head.length) rest
      some (head ++ List.replicate (8 - head.length - tail.length) 0 ++ tail, rest)
    | _ => none

/-- A port behind a colon, at the end of the text. -/
def readPort? : List Char → Option Nat
  | ':' :: s =>
    match readNumber 10 s.length 65536 s with
    | some (port, []) => some port
    | _ => none
  | _ => none

/-- What follows the groups in brackets: a zone number, which is dropped, and the bracket. -/
def skipZone? : List Char → Option (List Char)
  | '%' :: s =>
    match readNumber 10 s.length (Nat.pow 2 32) s with
    | some (_, ']' :: rest) => some rest
    | _ => none
  | ']' :: rest => some rest
  | _ => none

/-- Reads an address with a port. -/
def SocketAddress.parse? (s : List Char) : Option SocketAddress :=
  match s with
  | '[' :: s => do
    let (groups, rest) ← readV6 s
    let rest ← skipZone? rest
    return ⟨.v6 groups, ← readPort? rest⟩
  | s => do
    let (octets, rest) ← readOctets s
    return ⟨.v4 octets, ← readPort? rest⟩

end HttpGateway.Net
