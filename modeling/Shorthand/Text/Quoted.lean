import Shorthand.Text.Printable

set_option autoImplicit false
set_option relaxedAutoImplicit false

/-!
# Quoted texts

Messages show a text between quotes, with everything that a reader could not see or tell apart
written as an escape. The quotes are single ones, unless the text has a single quote and no double
one.

## Main definitions

* `Shorthand.Text.escapeChar` — how one character stands between given quotes.
* `Shorthand.Text.quoted` — a text between quotes.

## Main results

* `Shorthand.Text.quoteMark_not_mem` — double quotes never surround a text that has one.
-/

namespace Shorthand.Text

/-- How a character stands between the quotes `mark`. Unprintable characters are written with the
fewest of two, four or eight hexadecimal digits. -/
def escapeChar (mark c : Char) : Text :=
  if c = mark || c = '\\' then ['\\', c]
  else if c = '\n' then ['\\', 'n']
  else if c = '\t' then ['\\', 't']
  else if c = '\r' then ['\\', 'r']
  else if isPrintable c then [c]
  else if c.toNat < 0x100 then '\\' :: 'x' :: hex 2 c.toNat
  else if c.toNat < 0x10000 then '\\' :: 'u' :: hex 4 c.toNat
  else '\\' :: 'U' :: hex 8 c.toNat

/-- The quotes that surround a text. -/
def quoteMark (s : Text) : Char := if s.contains '\'' && !s.contains '"' then '"' else '\''

/-- **Double quotes never surround a text that has one.** -/
theorem quoteMark_not_mem {s : Text} (h : quoteMark s = '"') : '"' ∉ s := by
  unfold quoteMark at h
  split at h
  · simp_all
  · simp at h

/-- A text between quotes. -/
def quoted (s : Text) : Text :=
  let mark := quoteMark s
  mark :: s.flatMap (escapeChar mark) ++ [mark]

end Shorthand.Text
