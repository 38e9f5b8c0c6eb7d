import Shorthand.Text.Basic

set_option autoImplicit false
set_option relaxedAutoImplicit false

/-!
# Texts with lone surrogates

What is written in units of two bytes, or with numeric escapes for such units, can hold a
surrogate that is half of no pair. A text cannot: a sequence of points is a text exactly when no
surrogate stands alone in it.

## Main definitions

* `Shorthand.Point`, `Shorthand.Points` — characters and lone surrogates, and sequences of them.
* `Shorthand.Points.ofText`, `Shorthand.Points.toText?` — texts as points, and back.
* `Shorthand.Points.ofUnits` — the points of units of two bytes.

## Main results

* `Shorthand.Points.toText?_ofText` — a text comes back.
-/

namespace Shorthand

/-- A character, or a surrogate that stands alone. -/
inductive Point where
  | char (c : Char)
  | lone (n : Nat)
  deriving DecidableEq, Repr

/-- A text in which surrogates may stand alone. -/
abbrev Points := List Point

/-- The point of a number: a surrogate stands alone. There is none beyond the last character. -/
def Point.ofNat? (n : Nat) : Option Point :=
  if n.isValidChar then some (.char (Char.ofNat n))
  else if n < 0xE000 then some (.lone n)
  else none

/-- The character that a point is. -/
def Point.char? : Point → Option Char
  | .char c => some c
  | .lone _ => none

/-- Whether a number is the first half of a pair. -/
def Point.isHigh (n : Nat) : Bool := 0xD800 ≤ n && n < 0xDC00

/-- Whether a number is the second half of a pair. -/
def Point.isLow (n : Nat) : Bool := 0xDC00 ≤ n && n < 0xE000

/-- The character of a pair. -/
def Point.ofPair (high low : Nat) : Point :=
  .char (Char.ofNat (0x10000 + (high - 0xD800) * 0x400 + (low - 0xDC00)))

namespace Points

/-- A text as points. -/
def ofText (s : Text) : Points := s.map .char

/-- The text that points are, if no surrogate stands alone among them. -/
def toText? (s : Points) : Option Text := s.mapM Point.char?

/-- **A text comes back.** -/
theorem toText?_ofText (s : Text) : toText? (ofText s) = some s := by
  induction s with
  | nil => rfl
  | cons c rest ih =>
    simp only [toText?, ofText] at ih
    simp [toText?, ofText, Point.char?, ih]

/-- Whether a surrogate stands alone among the points. -/
def hasLone (s : Points) : Bool := s.any fun p => p.char?.isNone

/-- The points of units of two bytes: the halves of a pair that follow each other are one
character. -/
def ofUnits : List Nat → Option Points
  | [] => some []
  | [n] => (Point.ofNat? n).map fun p => [p]
  | n :: m :: rest =>
    if Point.isHigh n && Point.isLow m then (ofUnits rest).map (Point.ofPair n m :: ·)
    else (Point.ofNat? n).bind fun p => (ofUnits (m :: rest)).map (p :: ·)

end Points

end Shorthand
