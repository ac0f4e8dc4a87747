/-
The bytes of a text.

* **utf8** — the UTF-8 bytes of a text.
* **ofUtf8?** — the text of UTF-8 bytes; `none` for bytes that are not UTF-8.
-/
namespace HttpGateway.Text

/-- The UTF-8 bytes of a text. -/
def utf8 (s : List Char) : List UInt8 :=
  s.flatMap String.utf8EncodeChar

/-- The text of UTF-8 bytes. -/
def ofUtf8? (bytes : List UInt8) : Option (List Char) :=
  (String.fromUTF8? ⟨bytes.toArray⟩).map String.toList

end HttpGateway.Text
