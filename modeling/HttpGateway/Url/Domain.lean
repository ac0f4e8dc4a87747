/-
Domain names in ASCII.

A name is case-folded, put into its composed form and cut into labels. A label beyond ASCII is
written in letters and digits behind `xn--`; a label that already starts so has to be the written
form of an allowed one.

* **labelAllowed** — what a label beyond ASCII may consist of.
* **directionAllowed** — how writing directions may be mixed in a label.
* **toAscii?** — the ASCII form of a name; `none` if some character or label is not allowed.
-/
import HttpGateway.Unicode.DomainMap
import HttpGateway.Unicode.Composed
import HttpGateway.Unicode.Direction
import HttpGateway.Url.Punycode

namespace HttpGateway.Url.Domain

open Unicode

/-- ASCII characters that no domain name holds. -/
def isForbidden (c : Char) : Bool :=
  c.toNat ≤ 0x20 || c.toNat == 0x7F || "%#/:<>?@[\\]^|".toList.contains c

/-- What stands in a domain name for a character. -/
def image? (c : Char) : Option (List Char) :=
  if c.toNat < 0x80 then some [c.toLower] else domainImage c

/-- Whether the characters before an invisible non-joiner or joiner, the last one in front, let it
stand: it follows a sign that suppresses a vowel, or it parts two letters that would connect. -/
def joinerAllowed (c : Char) (before after : List Char) : Bool :=
  let followsVirama := match before with
    | p :: _ => combiningClass p == 9
    | [] => false
  let partsLetters :=
    match before.dropWhile (joining · = .transparent), after.dropWhile (joining · = .transparent) with
    | p :: _, n :: _ => joining p = .both && (joining n = .both || joining n = .previous)
    | _, _ => false
  followsVirama || (c.toNat == 0x200C && partsLetters)

/-- Whether all joiners of a label may stand where they are. -/
def joinersAllowed (before : List Char) : List Char → Bool
  | [] => true
  | c :: rest =>
    (if c.toNat = 0x200C ∨ c.toNat = 0x200D then joinerAllowed c before rest else true) &&
      joinersAllowed (c :: before) rest

/-- Whether a label may stand in a name: it does not start with a mark, is in composed form, and
holds only characters that a name keeps. -/
def labelAllowed (label : List Char) : Bool :=
  !(label.head?.any isMark) && composed label == label &&
    label.all (fun c => image? c == some [c]) && joinersAllowed [] label

/-- Whether a label holds characters that are written from right to left. -/
def isRightToLeft (label : List Char) : Bool :=
  label.any fun c => (direction c matches .rightToLeft | .arabicLetter | .arabicNumber)

/-- Whether the directions of a label's characters may be mixed as they are. -/
def directionAllowed (label : List Char) : Bool :=
  let ds := label.map direction
  let last := ds.reverse.find? (· ≠ .nonspacingMark)
  let neutral (d : Direction) : Bool :=
    d matches .europeanNumber | .europeanSeparator | .commonSeparator | .europeanTerminator
      | .otherNeutral | .boundaryNeutral | .nonspacingMark
  match ds.head? with
  | none => true
  | some .leftToRight =>
    ds.all (fun d => neutral d || d = .leftToRight) &&
      last.any (fun d => (d matches .leftToRight | .europeanNumber))
  | some d =>
    (d matches .rightToLeft | .arabicLetter) &&
      ds.all (fun d =>
        neutral d || (d matches .rightToLeft | .arabicLetter | .arabicNumber)) &&
      last.any (fun d =>
        (d matches .rightToLeft | .arabicLetter | .europeanNumber | .arabicNumber)) &&
      !(ds.contains .europeanNumber && ds.contains .arabicNumber)

/-- The characters that a label of a folded name stands for. -/
def readLabel? (label : List Char) : Option (List Char) :=
  match label with
  | 'x' :: 'n' :: '-' :: '-' :: written => do
    let text ← Punycode.decode? written
    if text.all (·.toNat < 0x80) then none
    else if labelAllowed text then some text else none
  | _ =>
    if label.all (·.toNat < 0x80) || labelAllowed label then some label else none

/-- The ASCII form of a label. -/
def writeLabel (text : List Char) : List Char :=
  if text.all (·.toNat < 0x80) then text else "xn--".toList ++ Punycode.encode text

/-- The ASCII form of a domain name. -/
def toAscii? (name : List Char) : Option (List Char) := do
  let folded := composed (← name.mapM image?).flatten
  let labels ← (folded.splitOn '.').mapM readLabel?
  if labels.any isRightToLeft && !labels.all directionAllowed then none
  else
    let ascii := ['.'].intercalate (labels.map writeLabel)
    if ascii.any isForbidden then none else some ascii

end HttpGateway.Url.Domain
