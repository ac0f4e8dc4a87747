/-
Texts beyond ASCII in ASCII letters and digits.

The characters beyond ASCII are inserted into the ASCII ones in ascending order. Each insertion is
a number: how many positions of the growing text, counted through all characters in between, are
passed over before it. The numbers are written in digits of base 36 whose weights depend on a bias
that follows the size of the last numbers.

* **encode** — the written form of a text.
* **decode?** — the text of a written form.
-/
import HttpGateway.Text.Numeral

namespace HttpGateway.Url.Punycode

/-- The character of a digit: `a` to `z` for 0 to 25, then `0` to `9`. -/
def digitChar (d : Nat) : Char :=
  if d < 26 then Char.ofNat ('a'.toNat + d) else Char.ofNat ('0'.toNat + (d - 26))

/-- The digit of a character; letters count in both cases. -/
def digitValue? (c : Char) : Option Nat :=
  if 'a' ≤ c ∧ c ≤ 'z' then some (c.toNat - 'a'.toNat)
  else if 'A' ≤ c ∧ c ≤ 'Z' then some (c.toNat - 'A'.toNat)
  else if '0' ≤ c ∧ c ≤ '9' then some (c.toNat - '0'.toNat + 26)
  else none

/-- A digit below this value is the last one of its number; `k` counts positions in steps of 36. -/
def threshold (bias k : Nat) : Nat :=
  if k ≤ bias then 1 else if bias + 26 ≤ k then 26 else k - bias

theorem threshold_pos (bias k : Nat) : 1 ≤ threshold bias k := by
  unfold threshold
  split
  · omega
  · split <;> omega

theorem threshold_le (bias k : Nat) : threshold bias k ≤ 26 := by
  unfold threshold
  split
  · omega
  · split <;> omega

/-- Divides a size by 35 until it is at most 455, counting 36 for each step. -/
def scale (size k : Nat) : Nat × Nat :=
  if 455 < size then scale (size / 35) (k + 36) else (size, k)
termination_by size
decreasing_by exact Nat.div_lt_self (by omega) (by omega)

/-- The bias after a number of this size when the text has `length` characters. -/
def adapt (size length : Nat) (first : Bool) : Nat :=
  let damped := if first then size / 700 else size / 2
  let (rest, k) := scale (damped + damped / length) 0
  k + 36 * rest / (rest + 38)

/-- The digits of a number. -/
def encodeNumber (bias k n : Nat) : List Char :=
  let t := threshold bias k
  if n < t then [digitChar n]
  else digitChar (t + (n - t) % (36 - t)) :: encodeNumber bias (k + 36) ((n - t) / (36 - t))
termination_by n
decreasing_by
  have h1 := threshold_pos bias k
  have h2 := threshold_le bias k
  calc (n - threshold bias k) / (36 - threshold bias k)
      ≤ n - threshold bias k := Nat.div_le_self _ _
    _ < n := by omega

/-- What has been written so far: the positions passed over since the last number, and the
characters that are already there. -/
structure Progress where
  written : List Char
  passed : Nat
  bias : Nat
  placed : Nat

/-- Walks over one character of the text while the code point `m` is inserted. -/
def Progress.visit (basic m : Nat) (p : Progress) (c : Char) : Progress :=
  if c.toNat < m then { p with passed := p.passed + 1 }
  else if c.toNat = m then
    { written := p.written ++ encodeNumber p.bias 36 p.passed
      passed := 0
      bias := adapt p.passed (p.placed + 1) (p.placed = basic)
      placed := p.placed + 1 }
  else p

/-- Inserts the code points of a list, which ascends from `next` on. -/
def encodeFrom (text : List Char) (basic : Nat) : List Nat → Nat → Progress → Progress
  | [], _, p => p
  | m :: rest, next, p =>
    let p := { p with passed := p.passed + (m - next) * (p.placed + 1) }
    let p := text.foldl (Progress.visit basic m) p
    encodeFrom text basic rest (m + 1) { p with passed := p.passed + 1 }

/-- The written form of a text. -/
def encode (text : List Char) : List Char :=
  let basic := text.filter (·.toNat < 0x80)
  let others := ((text.filter (0x80 ≤ ·.toNat)).map Char.toNat).mergeSort.eraseDups
  let p := encodeFrom text basic.length others 0x80 ⟨[], 0, 72, basic.length⟩
  basic ++ (if basic.isEmpty then [] else ['-']) ++ p.written

/-- Reads one number and adds it to `sum`. -/
def decodeNumber? (bias : Nat) : List Char → Nat → Nat → Nat → Option (Nat × List Char)
  | [], _, _, _ => none
  | c :: rest, k, weight, sum =>
    match digitValue? c with
    | none => none
    | some d =>
      let t := threshold bias k
      if d < t then some (sum + d * weight, rest)
      else decodeNumber? bias rest (k + 36) (weight * (36 - t)) (sum + d * weight)

theorem decodeNumber?_length {bias : Nat} {s : List Char} {k w n : Nat} {r : Nat × List Char}
    (h : decodeNumber? bias s k w n = some r) : r.2.length < s.length := by
  induction s generalizing k w n with
  | nil => simp [decodeNumber?] at h
  | cons c rest ih =>
    rw [decodeNumber?] at h
    split at h
    · simp at h
    · dsimp only at h
      split at h
      · simp only [Option.some.injEq] at h; subst h; simp
      · have := ih h; simp only [List.length_cons]; omega

/-- Inserts characters as long as there are numbers. `position` is where the last one went, `next`
the code point from which the next one is counted. -/
def decodeFrom? (text : List Char) (bias next position : Nat) (first : Bool) (s : List Char) :
    Option (List Char) :=
  match s with
  | [] => some text
  | c :: rest =>
    match h : decodeNumber? bias (c :: rest) 36 1 position with
    | none => none
    | some (n, remaining) =>
      have : remaining.length < (c :: rest).length := decodeNumber?_length h
      let length := text.length + 1
      let code := next + n / length
      if code < 0xD800 ∨ (0xDFFF < code ∧ code < 0x110000) then
        decodeFrom? (text.insertIdx (n % length) (Char.ofNat code))
          (adapt (n - position) length first) code (n % length + 1) false remaining
      else none
termination_by s.length
decreasing_by
  simp only [List.length_cons] at this ⊢
  omega

/-- The text of a written form: the ASCII characters before the last hyphen, and those that the
numbers after it insert. -/
def decode? (s : List Char) : Option (List Char) :=
  let tail := (s.reverse.takeWhile (· ≠ '-')).reverse
  let basic := s.take (s.length - tail.length - 1)
  decodeFrom? basic 72 0x80 0 true tail

end HttpGateway.Url.Punycode
