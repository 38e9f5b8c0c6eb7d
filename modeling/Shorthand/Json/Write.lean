import Shorthand.Value.Basic

set_option autoImplicit false
set_option relaxedAutoImplicit false

/-!
# Writing JSON texts

## Main definitions

* `Shorthand.Json.write` — a text of a value.
-/

namespace Shorthand.Json

/-- How a character stands in a string. -/
def writeChar (c : Char) : Text :=
  if c = '"' then ['\\', '"']
  else if c = '\\' then ['\\', '\\']
  else if c.toNat < 0x20 || c.toNat = 0x7F then '\\' :: 'u' :: Text.hex 4 c.toNat
  else [c]

/-- A string between quotes. -/
def writeString (s : Text) : Text := '"' :: s.flatMap writeChar ++ ['"']

/-- A number with a fraction or an exponent. -/
def writeFloat : Binary64 → Text
  | .nan => "NaN".toList
  | .infinite s => if s then "-Infinity".toList else "Infinity".toList
  | x => x.toText

mutual

/-- A JSON text of a value; a moment is written as its text. -/
def write : Value → Text
  | .null => "null".toList
  | .bool b => if b then "true".toList else "false".toList
  | .int n => Text.ofInt n
  | .float x => writeFloat x
  | .text s => writeString s
  | .moment m => writeString (m.toText 'T')
  | .array items => '[' :: writeItems items ++ [']']
  | .table entries => '\x7b' :: writeMembers entries ++ ['\x7d']

/-- The items of an array, between commas. -/
def writeItems : List Value → Text
  | [] => []
  | [v] => write v
  | v :: rest => write v ++ ',' :: writeItems rest

/-- The members of an object, between commas. -/
def writeMembers : List (Text × Value) → Text
  | [] => []
  | [(k, v)] => writeString k ++ ':' :: write v
  | (k, v) :: rest => writeString k ++ ':' :: write v ++ ',' :: writeMembers rest

end

end Shorthand.Json
