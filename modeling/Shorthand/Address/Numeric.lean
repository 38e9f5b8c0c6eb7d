import Shorthand.Text.Basic

set_option autoImplicit false
set_option relaxedAutoImplicit false

/-!
# Numeric addresses of hosts

A host is named, or it is given by its number: of four bytes, in decimal with dots between them,
or of sixteen bytes, in hexadecimal groups of two bytes with colons between them.

## Main definitions

* `Shorthand.Address.looksNumeric` — what is taken for a number of four bytes.
* `Shorthand.Address.isFourBytes` — what is one.
* `Shorthand.Address.isSixteenBytes` — what is a number of sixteen bytes.
-/

namespace Shorthand.Address

/-- Whether a host is taken for a number of four bytes: it consists of four runs of digits with
any one character between two of them, which may be a digit too. A run of `n` digits is thus as
good as `(n + 1) / 2` of them. -/
def looksNumeric (host : Text) : Bool :=
  let runs := host.splitOnP fun c => !c.isDigit
  runs.length ≤ 4 && runs.all (!·.isEmpty) &&
    4 ≤ runs.foldl (fun total run => total + (run.length + 1) / 2) 0

/-- The value of decimal digits. -/
def decimalValue (digits : Text) : Nat :=
  digits.foldl (fun value c => 10 * value + (c.toNat - '0'.toNat)) 0

/-- Whether a text is the decimal number of a byte. It has no leading zeros. -/
def isByte (s : Text) : Bool :=
  !s.isEmpty && s.length ≤ 3 && s.all Char.isDigit && (s.length = 1 || s.head? ≠ some '0') &&
    decimalValue s < 256

/-- Whether a text is a number of four bytes. -/
def isFourBytes (s : Text) : Bool :=
  let bytes := Text.splitOn ['.'] s
  bytes.length = 4 && bytes.all isByte

/-- Whether a character is a hexadecimal digit. -/
def isHexDigit (c : Char) : Bool :=
  c.isDigit || ('a' ≤ c && c ≤ 'f') || ('A' ≤ c && c ≤ 'F')

/-- Whether a text is the hexadecimal number of two bytes. -/
def isGroup (s : Text) : Bool := !s.isEmpty && s.length ≤ 4 && s.all isHexDigit

/-- How many groups stand between colons, if all of them are right. Where `last` allows it, the last
one may be a number of four bytes, which counts for two. -/
def groups? (last : Bool) (s : Text) : Option Nat :=
  let parts := if s.isEmpty then [] else Text.splitOn [':'] s
  match parts.reverse with
  | part :: before =>
    if last && part.contains '.' then
      if isFourBytes part && before.all isGroup then some (before.length + 2) else none
    else if parts.all isGroup then some parts.length
    else none
  | [] => some 0

/-- Whether a text is eight groups, or fewer with two colons once in place of those that are
zero. -/
def isEightGroups (s : Text) : Bool :=
  match Text.cut "::".toList s with
  | none => groups? true s = some 8
  | some (before, after) =>
    match groups? false before, groups? true after with
    | some m, some n => m + n < 8
    | _, _ => false

/-- Whether a text is a number of sixteen bytes. A percent sign and the name of a zone may follow
it. -/
def isSixteenBytes (s : Text) : Bool :=
  match Text.cut ['%'] s with
  | none => isEightGroups s
  | some (number, zone) => isEightGroups number && !zone.isEmpty && !zone.contains '%'

end Shorthand.Address
