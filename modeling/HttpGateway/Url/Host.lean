/-
The host of a URL.

* **Host** — a domain name, an address of either version, or (in URLs whose scheme is not special)
  a text that is kept as it is.
* **Host.parse** — the host of a special URL: percent-decoded, in ASCII, and an address whenever
  its last label is a number.
* **parseV4?**, **parseV6?** — the liberal spellings of addresses that URLs allow.
-/
import HttpGateway.Net.Address
import HttpGateway.Url.Percent
import HttpGateway.Url.Domain

namespace HttpGateway.Url

open Text Net

/-- Why a text is no URL. -/
inductive ParseError
  | emptyHost
  | invalidDomain
  | invalidPort
  | invalidV4
  | invalidV6
  | invalidHostCharacter
  | noScheme
deriving DecidableEq, Repr

/-- The wording of each cause. -/
def ParseError.message : ParseError → String
  | emptyHost => "empty host"
  | invalidDomain => "invalid international domain name"
  | invalidPort => "invalid port number"
  | invalidV4 => "invalid IPv4 address"
  | invalidV6 => "invalid IPv6 address"
  | invalidHostCharacter => "invalid domain character"
  | noScheme => "relative URL without a base"

/-- The host of a URL. -/
inductive Host
  | domain (name : List Char)
  | address (ip : IpAddress)
deriving DecidableEq, Repr

/-- The host as it stands in the URL. A version 6 address is in brackets. -/
def Host.text : Host → List Char
  | domain name => name
  | address (.v4 octets) => octetsText octets
  | address (.v6 groups) => '[' :: groupsText groups ++ [']']

/-- A number in decimal digits, in octal ones behind `0` or in hexadecimal ones behind `0x`. -/
def readLiberal? (s : List Char) : Option Nat :=
  match s with
  | [] => none
  | '0' :: 'x' :: r | '0' :: 'X' :: r => ofDigits? 16 r
  | '0' :: c :: r => ofDigits? 8 (c :: r)
  | _ => ofDigits? 10 s

/-- Whether a name has to be an address: its last label that is not empty is a number. -/
def endsInNumber (name : List Char) : Bool :=
  let last? := match (name.splitOn '.').reverse with
    | [] :: last :: _ => some last
    | [] :: [] => none
    | last :: _ => some last
    | [] => none
  match last? with
  | none => false
  | some last => (!last.isEmpty && last.all (digit? · |>.isSome)) || (readLiberal? last).isSome

/-- A version 4 address of one to four numbers; the last number fills what the others leave. -/
def parseV4? (name : List Char) : Option IpAddress := do
  let parts := name.splitOn '.'
  let parts := if parts.getLast? = some [] then parts.dropLast else parts
  if 4 < parts.length then none
  else do
    let numbers ← parts.mapM readLiberal?
    let last ← numbers.getLast?
    let leading := numbers.dropLast
    if leading.any (255 < ·) || Nat.pow 256 (4 - leading.length) ≤ last then none
    else
      let rest := List.range (4 - leading.length)
      return .v4 (leading ++ rest.reverse.map fun i => last / Nat.pow 256 i % 256)

/-- Where the groups of a version 6 address are cut: the groups before and after the double colon,
the last one in front, and whether there was one. -/
structure Groups where
  before : List Nat
  after : List Nat
  compressed : Bool

def Groups.count (g : Groups) : Nat := g.before.length + g.after.length

def Groups.push (g : Groups) (n : Nat) : Groups :=
  if g.compressed then { g with after := n :: g.after } else { g with before := n :: g.before }

/-- The eight groups. A double colon counts as at least one group of zeros. -/
def Groups.finish? (g : Groups) : Option IpAddress :=
  if g.compressed then
    if 8 ≤ g.count then none
    else some (.v6 (g.before.reverse ++ List.replicate (8 - g.count) 0 ++ g.after.reverse))
  else if g.count = 8 then some (.v6 g.before.reverse) else none

/-- Four decimal octets that fill the last two groups. -/
def finishDotted? (g : Groups) (s : List Char) : Option IpAddress :=
  let room := if g.compressed then 7 else 8
  if room < g.count + 2 then none
  else match readOctets s with
    | some ([a, b, c, d], []) => (g.push (a * 256 + b) |>.push (c * 256 + d)).finish?
    | _ => none

/-- Reads groups from the start of a group on. `fuel` is more than there are characters. -/
def parseGroups? : Nat → Groups → List Char → Option IpAddress
  | 0, _, _ => none
  | fuel + 1, g, s =>
    match s with
    | [] => g.finish?
    | ':' :: rest =>
      if g.compressed then none else parseGroups? fuel { g with compressed := true } rest
    | _ =>
      if 8 ≤ g.count then none
      else
        let isHex (c : Char) : Bool := (digitIn? 16 c).isSome
        let digits := (s.take 4).takeWhile isHex
        let rest := s.drop digits.length
        match rest with
        | '.' :: _ => if digits.isEmpty then none else finishDotted? g s
        | ':' :: [] => none
        | ':' :: rest =>
          (ofDigits? 16 digits).bind fun n => parseGroups? fuel (g.push n) rest
        | [] => (ofDigits? 16 digits).bind fun n => (g.push n).finish?
        | _ => none

/-- A version 6 address without its brackets. -/
def parseV6? (s : List Char) : Option IpAddress :=
  match s with
  | ':' :: ':' :: rest => parseGroups? (s.length + 1) ⟨[], [], true⟩ rest
  | ':' :: _ => none
  | _ => if s.length < 2 then none else parseGroups? (s.length + 1) ⟨[], [], false⟩ s

/-- A version 6 address in brackets. -/
def parseBracketed (s : List Char) : Except ParseError Host :=
  if s.getLast? = some ']' then
    match parseV6? s.tail.dropLast with
    | some ip => .ok (.address ip)
    | none => .error .invalidV6
  else .error .invalidV6

/-- The host of a URL with a special scheme. -/
def Host.parse (s : List Char) : Except ParseError Host :=
  if s.head? = some '[' then parseBracketed s
  else
    match (ofUtf8? (Percent.decode s)).bind Domain.toAscii? with
    | none => .error .invalidDomain
    | some name =>
      if name.isEmpty then .error .emptyHost
      else if endsInNumber name then
        match parseV4? name with
        | some ip => .ok (.address ip)
        | none => .error .invalidV4
      else .ok (.domain name)

/-- Characters that no host holds, not even one that is kept as it is. -/
def isForbiddenInHost (c : Char) : Bool :=
  "\x00\t\n\x0d #/:<>?@[\\]^|".toList.contains c

/-- The host of a URL whose scheme is not special. -/
def Host.parseOpaque (s : List Char) : Except ParseError Host :=
  if s.head? = some '[' then parseBracketed s
  else if s.any isForbiddenInHost then .error .invalidHostCharacter
  else .ok (.domain (Percent.encode Percent.controlSet s))

end HttpGateway.Url
