/-
Percent-encoding.

* **encode** — the bytes of a character that has to be encoded become `%` and two hexadecimal
  digits each.
* **decode** — the bytes that a text stands for; a `%` that is not followed by two hexadecimal
  digits stands for itself.
* **controlSet**, **fragmentSet**, **querySet**, **specialQuerySet**, **pathSet**,
  **userinfoSet** — the ASCII characters that are encoded in each part of a URL. What is not ASCII
  is always encoded.
-/
import HttpGateway.Text.Utf8
import HttpGateway.Text.Numeral

namespace HttpGateway.Url.Percent

open Text

/-- The control characters of ASCII. -/
def controlSet (c : Char) : Bool := c.toNat < 0x20 || c.toNat == 0x7F

/-- Encoded in fragments. -/
def fragmentSet (c : Char) : Bool := controlSet c || " \"<>`".toList.contains c

/-- Encoded in the queries of URLs whose scheme is not special. -/
def querySet (c : Char) : Bool := controlSet c || " \"#<>".toList.contains c

/-- Encoded in the queries of URLs with a special scheme. -/
def specialQuerySet (c : Char) : Bool := querySet c || c == '\''

/-- Encoded in paths. -/
def pathSet (c : Char) : Bool := fragmentSet c || "#?\x7b\x7d".toList.contains c

/-- Encoded in user names and passwords. -/
def userinfoSet (c : Char) : Bool := pathSet c || "/:;=@[\\]^|".toList.contains c

/-- A byte as `%` and two upper-case hexadecimal digits. -/
def encodeByte (b : UInt8) : List Char :=
  '%' :: (hexPadded 2 b.toNat).map Char.toUpper

/-- One character, encoded if it is not ASCII or in the set. -/
def encodeChar (set : Char → Bool) (c : Char) : List Char :=
  if 0x80 ≤ c.toNat || set c then (String.utf8EncodeChar c).flatMap encodeByte else [c]

/-- A text with the characters of the set, and all that is not ASCII, encoded. -/
def encode (set : Char → Bool) (s : List Char) : List Char :=
  s.flatMap (encodeChar set)

/-- The bytes that a percent-encoded text stands for. -/
def decode : List Char → List UInt8
  | [] => []
  | c :: rest =>
    match c, rest with
    | '%', a :: b :: r =>
      match digitIn? 16 a, digitIn? 16 b with
      | some x, some y => UInt8.ofNat (16 * x + y) :: decode r
      | _, _ => String.utf8EncodeChar c ++ decode (a :: b :: r)
    | c, r => String.utf8EncodeChar c ++ decode r

end HttpGateway.Url.Percent
