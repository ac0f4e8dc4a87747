/-
Texts in quotes, for logs.

* **quoted** — a text in double quotes: quotes and backslashes have a backslash in front, the usual
  line and tab characters have their short names, and every other character that would not be shown
  is written as its code point.
-/
import HttpGateway.Text.Numeral
import HttpGateway.Unicode.Printable

namespace HttpGateway.Text

/-- A character as it stands between double quotes. -/
def quotedChar (c : Char) : List Char :=
  match c with
  | '\x00' => ['\\', '0']
  | '\t' => ['\\', 't']
  | '\r' => ['\\', 'r']
  | '\n' => ['\\', 'n']
  | '\\' => ['\\', '\\']
  | '"' => ['\\', '"']
  | _ =>
    if Unicode.isPrintable c then [c]
    else ['\\', 'u', '\x7b'] ++ digitsOnto 16 c.toNat ['\x7d']

/-- A text in double quotes. -/
def quoted (s : String) : String :=
  String.ofList ('"' :: s.toList.flatMap quotedChar ++ ['"'])

end HttpGateway.Text
