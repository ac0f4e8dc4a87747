/-
The 64-bit XXH3 hash with its default secret and no seed.

Short inputs are read as a few overlapping words that are mixed with words of the secret. An input
of more than 240 bytes is consumed in stripes of 64 bytes by eight accumulators, which are scrambled
after every block of sixteen stripes and folded into one at the end.

* **hash64** — the hash of a byte string.
* **bucket** — the hash of a text, reduced to a percentage.
-/
import HttpGateway.Text.Utf8

namespace HttpGateway.Hash.Xxh3

/-- The bytes that inputs are mixed with. -/
def secret : ByteArray := ⟨#[
  0xb8, 0xfe, 0x6c, 0x39, 0x23, 0xa4, 0x4b, 0xbe, 0x7c, 0x01, 0x81, 0x2c, 0xf7, 0x21, 0xad, 0x1c,
  0xde, 0xd4, 0x6d, 0xe9, 0x83, 0x90, 0x97, 0xdb, 0x72, 0x40, 0xa4, 0xa4, 0xb7, 0xb3, 0x67, 0x1f,
  0xcb, 0x79, 0xe6, 0x4e, 0xcc, 0xc0, 0xe5, 0x78, 0x82, 0x5a, 0xd0, 0x7d, 0xcc, 0xff, 0x72, 0x21,
  0xb8, 0x08, 0x46, 0x74, 0xf7, 0x43, 0x24, 0x8e, 0xe0, 0x35, 0x90, 0xe6, 0x81, 0x3a, 0x26, 0x4c,
  0x3c, 0x28, 0x52, 0xbb, 0x91, 0xc3, 0x00, 0xcb, 0x88, 0xd0, 0x65, 0x8b, 0x1b, 0x53, 0x2e, 0xa3,
  0x71, 0x64, 0x48, 0x97, 0xa2, 0x0d, 0xf9, 0x4e, 0x38, 0x19, 0xef, 0x46, 0xa9, 0xde, 0xac, 0xd8,
  0xa8, 0xfa, 0x76, 0x3f, 0xe3, 0x9c, 0x34, 0x3f, 0xf9, 0xdc, 0xbb, 0xc7, 0xc7, 0x0b, 0x4f, 0x1d,
  0x8a, 0x51, 0xe0, 0x4b, 0xcd, 0xb4, 0x59, 0x31, 0xc8, 0x9f, 0x7e, 0xc9, 0xd9, 0x78, 0x73, 0x64,
  0xea, 0xc5, 0xac, 0x83, 0x34, 0xd3, 0xeb, 0xc3, 0xc5, 0x81, 0xa0, 0xff, 0xfa, 0x13, 0x63, 0xeb,
  0x17, 0x0d, 0xdd, 0x51, 0xb7, 0xf0, 0xda, 0x49, 0xd3, 0x16, 0x55, 0x26, 0x29, 0xd4, 0x68, 0x9e,
  0x2b, 0x16, 0xbe, 0x58, 0x7d, 0x47, 0xa1, 0xfc, 0x8f, 0xf8, 0xb8, 0xd1, 0x7a, 0xd0, 0x31, 0xce,
  0x45, 0xcb, 0x3a, 0x8f, 0x95, 0x16, 0x04, 0x28, 0xaf, 0xd7, 0xfb, 0xca, 0xbb, 0x4b, 0x40, 0x7e]⟩

def prime32A : UInt64 := 0x9E3779B1
def prime32B : UInt64 := 0x85EBCA77
def prime32C : UInt64 := 0xC2B2AE3D
def prime64A : UInt64 := 0x9E3779B185EBCA87
def prime64B : UInt64 := 0xC2B2AE3D27D4EB4F
def prime64C : UInt64 := 0x165667B19E3779F9
def prime64D : UInt64 := 0x85EBCA77C2B2AE63
def prime64E : UInt64 := 0x27D4EB2F165667C5
def primeMixA : UInt64 := 0x165667919E3779F9
def primeMixB : UInt64 := 0x9FB21C651E98DF25

/-- A byte, or zero past the end. -/
def byteAt (data : ByteArray) (i : Nat) : UInt64 :=
  match data[i]? with
  | some b => b.toUInt64
  | none => 0

/-- Four bytes, the least significant one first. -/
def word32 (data : ByteArray) (i : Nat) : UInt64 :=
  byteAt data i ||| byteAt data (i + 1) <<< 8 ||| byteAt data (i + 2) <<< 16 |||
    byteAt data (i + 3) <<< 24

/-- Eight bytes, the least significant one first. -/
def word64 (data : ByteArray) (i : Nat) : UInt64 :=
  word32 data i ||| word32 data (i + 4) <<< 32

def rotateLeft (x : UInt64) (n : UInt64) : UInt64 := x <<< n ||| x >>> (64 - n)

/-- The bytes of a word in the other order. -/
def swapBytes (x : UInt64) : UInt64 :=
  (List.range 8).foldl (fun acc i => acc <<< 8 ||| (x >>> (8 * i).toUInt64 &&& 0xff)) 0

/-- Both halves of the 128-bit product, exclusive-ored. -/
def foldedProduct (a b : UInt64) : UInt64 :=
  let p := a.toNat * b.toNat
  UInt64.ofNat p ^^^ UInt64.ofNat (p >>> 64)

/-- Spreads every bit over the whole word. -/
def avalanche (h : UInt64) : UInt64 :=
  let h := (h ^^^ h >>> 37) * primeMixA
  h ^^^ h >>> 32

/-- Spreads every bit over the whole word; used for the shortest inputs. -/
def avalancheShort (h : UInt64) : UInt64 :=
  let h := (h ^^^ h >>> 33) * prime64B
  let h := (h ^^^ h >>> 29) * prime64C
  h ^^^ h >>> 32

/-- Spreads every bit over the whole word, with the length of the input. -/
def avalancheWord (h length : UInt64) : UInt64 :=
  let h := h ^^^ rotateLeft h 49 ^^^ rotateLeft h 24
  let h := h * primeMixB
  let h := h ^^^ (h >>> 35 + length)
  let h := h * primeMixB
  h ^^^ h >>> 28

/-- Sixteen bytes of the input mixed with sixteen of the secret. -/
def mix16 (data : ByteArray) (i s : Nat) : UInt64 :=
  foldedProduct (word64 data i ^^^ word64 secret s)
    (word64 data (i + 8) ^^^ word64 secret (s + 8))

/-- One to three bytes. -/
def hashUpTo3 (data : ByteArray) : UInt64 :=
  let n := data.size
  let combined := byteAt data 0 <<< 16 ||| byteAt data (n / 2) <<< 24 ||| byteAt data (n - 1) |||
    n.toUInt64 <<< 8
  avalancheShort (combined ^^^ (word32 secret 0 ^^^ word32 secret 4))

/-- Four to eight bytes. -/
def hashUpTo8 (data : ByteArray) : UInt64 :=
  let n := data.size
  let input := word32 data (n - 4) + word32 data 0 <<< 32
  avalancheWord (input ^^^ (word64 secret 8 ^^^ word64 secret 16)) n.toUInt64

/-- Nine to sixteen bytes. -/
def hashUpTo16 (data : ByteArray) : UInt64 :=
  let n := data.size
  let low := word64 data 0 ^^^ (word64 secret 24 ^^^ word64 secret 32)
  let high := word64 data (n - 8) ^^^ (word64 secret 40 ^^^ word64 secret 48)
  avalanche (n.toUInt64 + swapBytes low + high + foldedProduct low high)

/-- Seventeen to 128 bytes: pairs of pieces from both ends inwards. -/
def hashUpTo128 (data : ByteArray) : UInt64 :=
  let n := data.size
  let pairs := (n - 1) / 32 + 1
  avalanche ((List.range pairs).foldl
    (fun acc i => acc + mix16 data (16 * i) (32 * i) + mix16 data (n - 16 * (i + 1)) (32 * i + 16))
    (n.toUInt64 * prime64A))

/-- 129 to 240 bytes: pieces in order, with the secret read from the start again after eight. -/
def hashUpTo240 (data : ByteArray) : UInt64 :=
  let n := data.size
  let head := (List.range 8).foldl (fun acc i => acc + mix16 data (16 * i) (16 * i))
    (n.toUInt64 * prime64A)
  let rest := (List.range (n / 16 - 8)).foldl
    (fun acc i => acc + mix16 data (16 * (i + 8)) (16 * i + 3)) (avalanche head)
  avalanche (rest + mix16 data (n - 16) 119)

/-- The eight accumulators. -/
abbrev Accumulators := Vector UInt64 8

def initialAccumulators : Accumulators :=
  #v[prime32C, prime64A, prime64B, prime64C, prime64D, prime32B, prime64E, prime32A]

/-- Takes in the stripe at `i`, with the secret from `s` on. Each word of the stripe is added to the
accumulator of its neighbour, and its product with the secret to its own. -/
def accumulate (data : ByteArray) (i s : Nat) (acc : Accumulators) : Accumulators :=
  let value (k : Nat) : UInt64 := word64 data (i + 8 * k)
  Vector.ofFn fun k =>
    let key := value k ^^^ word64 secret (s + 8 * k)
    let neighbour := if k.val % 2 = 0 then k.val + 1 else k.val - 1
    let low : UInt64 := key &&& 0xffffffff
    acc[k] + value neighbour + low * (key >>> 32)

/-- Mixes every accumulator after a block. -/
def scramble (acc : Accumulators) : Accumulators :=
  Vector.ofFn fun k =>
    (acc[k] ^^^ acc[k] >>> 47 ^^^ word64 secret (128 + 8 * k)) * prime32A

/-- Takes in `count` stripes from `i` on. -/
def accumulateStripes (data : ByteArray) (i count : Nat) (acc : Accumulators) : Accumulators :=
  (List.range count).foldl (fun acc k => accumulate data (i + 64 * k) (8 * k) acc) acc

/-- The accumulators folded into one word. -/
def mergeAccumulators (acc : Accumulators) (start : UInt64) : UInt64 :=
  avalanche (start +
    foldedProduct (acc[0] ^^^ word64 secret 11) (acc[1] ^^^ word64 secret 19) +
    foldedProduct (acc[2] ^^^ word64 secret 27) (acc[3] ^^^ word64 secret 35) +
    foldedProduct (acc[4] ^^^ word64 secret 43) (acc[5] ^^^ word64 secret 51) +
    foldedProduct (acc[6] ^^^ word64 secret 59) (acc[7] ^^^ word64 secret 67))

/-- More than 240 bytes. -/
def hashLong (data : ByteArray) : UInt64 :=
  let n := data.size
  let blocks := (n - 1) / 1024
  let acc := (List.range blocks).foldl
    (fun acc b => scramble (accumulateStripes data (1024 * b) 16 acc)) initialAccumulators
  let acc := accumulateStripes data (1024 * blocks) ((n - 1 - 1024 * blocks) / 64) acc
  let acc := accumulate data (n - 64) 121 acc
  mergeAccumulators acc (n.toUInt64 * prime64A)

/-- The hash of a byte string. -/
def hash64 (data : ByteArray) : UInt64 :=
  let n := data.size
  if n = 0 then avalancheShort (word64 secret 56 ^^^ word64 secret 64)
  else if n ≤ 3 then hashUpTo3 data
  else if n ≤ 8 then hashUpTo8 data
  else if n ≤ 16 then hashUpTo16 data
  else if n ≤ 128 then hashUpTo128 data
  else if n ≤ 240 then hashUpTo240 data
  else hashLong data

/-- The hash of a text, reduced to a number below a hundred. -/
def bucket (key : List Char) : Nat :=
  (hash64 ⟨(Text.utf8 key).toArray⟩).toNat % 100

end HttpGateway.Hash.Xxh3
