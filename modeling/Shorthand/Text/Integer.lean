import Shorthand.Text.Blank

set_option autoImplicit false
set_option relaxedAutoImplicit false

/-!
# Integers as people write them

An integer may be surrounded by white space, carry a sign, group its digits with single underscores
and use the decimal digits of any script. It may have leading zeros, but not more than
`Shorthand.Text.maxDigits` digits.

## Main definitions

* `Shorthand.Text.digit?` — the value of a decimal digit of any script.
* `Shorthand.Text.groupedDigits?` — the value and the number of digits of a digit group.
* `Shorthand.Text.toInt?` — the integer that a text writes.
-/

namespace Shorthand.Text

/-- The zeros of the Unicode 14 decimal digits; each is followed by the other nine of its script. -/
def digitZeros : List Nat := [
  0x30, 0x660, 0x6F0, 0x7C0, 0x966, 0x9E6, 0xA66, 0xAE6, 0xB66, 0xBE6, 0xC66, 0xCE6, 0xD66, 0xDE6,
  0xE50, 0xED0, 0xF20, 0x1040, 0x1090, 0x17E0, 0x1810, 0x1946, 0x19D0, 0x1A80, 0x1A90, 0x1B50,
  0x1BB0, 0x1C40, 0x1C50, 0xA620, 0xA8D0, 0xA900, 0xA9D0, 0xA9F0, 0xAA50, 0xABF0, 0xFF10, 0x104A0,
  0x10D30, 0x11066, 0x110F0, 0x11136, 0x111D0, 0x112F0, 0x11450, 0x114D0, 0x11650, 0x116C0, 0x11730,
  0x118E0, 0x11950, 0x11C50, 0x11D50, 0x11DA0, 0x16A60, 0x16AC0, 0x16B50, 0x1D7CE, 0x1D7D8, 0x1D7E2,
  0x1D7EC, 0x1D7F6, 0x1E140, 0x1E2F0, 0x1E950, 0x1FBF0
]

/-- The value of a decimal digit of any script. -/
def digit? (c : Char) : Option Nat :=
  (digitZeros.find? fun first => first ≤ c.toNat && c.toNat < first + 10).map (c.toNat - ·)

/-- An integer may not have more digits than this. -/
def maxDigits : Nat := 4300

/-- The value and the number of the digits of a group: digits of the class `digit`, with single
underscores between them. `seen` says that the character before was a digit. -/
def groupedDigitsFrom (digit : Char → Option Nat) (seen : Bool) (value count : Nat) :
    Text → Option (Nat × Nat)
  | [] => if seen then some (value, count) else none
  | c :: rest =>
    if c = '_' then if seen then groupedDigitsFrom digit false value count rest else none
    else match digit c with
      | some d => groupedDigitsFrom digit true (10 * value + d) (count + 1) rest
      | none => none

/-- The value and the number of the digits of a nonempty group. -/
def groupedDigits? (digit : Char → Option Nat) (s : Text) : Option (Nat × Nat) :=
  groupedDigitsFrom digit false 0 0 s

/-- The integer that a text writes. -/
def toInt? (s : Text) : Option Int :=
  let (negative, digits) := match trimBoth isWhiteSpace s with
    | '-' :: rest => (true, rest)
    | '+' :: rest => (false, rest)
    | rest => (false, rest)
  match groupedDigits? digit? digits with
  | some (value, count) =>
    if count ≤ maxDigits then some (if negative then -(value : Int) else value) else none
  | none => none

end Shorthand.Text
