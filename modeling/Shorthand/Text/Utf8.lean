import Shorthand.Text.Basic

set_option autoImplicit false
set_option relaxedAutoImplicit false

/-!
# Texts as bytes

Files hold bytes. A text is written in UTF-8; bytes are read back strictly, so that an overlong
form, a surrogate or a truncated sequence is refused and a byte order mark is an ordinary character.

## Main definitions

* `Shorthand.Text.encode` — the UTF-8 bytes of a text.
* `Shorthand.Text.decode?` — the text that bytes hold, if they are well formed.
-/

namespace Shorthand.Text

/-- The UTF-8 bytes of a text. -/
def encode (s : Text) : List UInt8 := (String.ofList s).toUTF8.toList

/-- The text that the bytes hold, if they are well-formed UTF-8. -/
def decode? (bytes : List UInt8) : Option Text :=
  (String.fromUTF8? ⟨bytes.toArray⟩).map String.toList

/-- The number of bytes that a text takes. -/
def byteLength (s : Text) : Nat := (encode s).length

end Shorthand.Text
