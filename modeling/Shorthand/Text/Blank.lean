import Shorthand.Text.Basic

set_option autoImplicit false
set_option relaxedAutoImplicit false

/-!
# Blank characters

Records are trimmed of blank characters: the Unicode property `White_Space` and the four
information separators U+001C to U+001F. Zero-width characters (U+200B, U+2060, U+FEFF, U+180E) are
no blanks.

## Main definitions

* `Shorthand.Text.isWhiteSpace` — the Unicode property `White_Space`.
* `Shorthand.Text.isBlank` — what trimming removes.
* `Shorthand.Text.trim` — a text without blanks at either end.
* `Shorthand.Text.words` — the runs of characters between blanks.
-/

namespace Shorthand.Text

/-- The Unicode property `White_Space`. -/
def isWhiteSpace (c : Char) : Bool :=
  let n := c.toNat
  (9 ≤ n && n ≤ 13) || n == 0x20 || n == 0x85 || n == 0xA0 || n == 0x1680 ||
    (0x2000 ≤ n && n ≤ 0x200A) || n == 0x2028 || n == 0x2029 || n == 0x202F || n == 0x205F ||
    n == 0x3000

/-- A blank is white space or one of the information separators U+001C to U+001F. -/
def isBlank (c : Char) : Bool :=
  isWhiteSpace c || (0x1C ≤ c.toNat && c.toNat ≤ 0x1F)

/-- Every character that core calls white space is a blank. -/
theorem isBlank_of_isWhitespace {c : Char} (h : c.isWhitespace) : isBlank c := by
  simp only [Char.isWhitespace, Bool.or_eq_true, decide_eq_true_eq] at h
  rcases h with ((h | h) | h) | h <;> subst h <;> decide

/-- A text without blanks at either end. -/
def trim (s : Text) : Text := trimBoth isBlank s

/-- The runs of characters between blanks, read with a word already begun. -/
def wordsFrom : Text → Text → List Text
  | word, [] => if word.isEmpty then [] else [word.reverse]
  | word, c :: rest =>
    if isBlank c then
      if word.isEmpty then wordsFrom [] rest else word.reverse :: wordsFrom [] rest
    else wordsFrom (c :: word) rest

/-- The runs of characters between blanks; there may be none. -/
def words (s : Text) : List Text := wordsFrom [] s

end Shorthand.Text
