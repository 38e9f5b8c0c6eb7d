import Shorthand.Text.Basic

set_option autoImplicit false
set_option relaxedAutoImplicit false

/-!
# Line breaks

Text files may end their lines with a line feed, a carriage return, or the pair of both. A reader of
text files sees a single line feed in each case; a reader of configuration files replaces only the
pair.

## Main definitions

* `Shorthand.Text.unifyNewlines` — each of the three line ends becomes a line feed.
* `Shorthand.Text.joinReturnPairs` — only the pair becomes a line feed.
* `Shorthand.Text.lines` — the lines of a text; a text has one more than it has line feeds.
-/

namespace Shorthand.Text

/-- Every line end (line feed, carriage return, or the pair) becomes a single line feed. -/
def unifyNewlines : Text → Text
  | '\r' :: '\n' :: rest => '\n' :: unifyNewlines rest
  | c :: rest => (if c = '\r' then '\n' else c) :: unifyNewlines rest
  | [] => []

/-- Every carriage return followed by a line feed goes; one that stands alone stays. -/
def joinReturnPairs : Text → Text
  | '\r' :: '\n' :: rest => '\n' :: joinReturnPairs rest
  | c :: rest => c :: joinReturnPairs rest
  | [] => []

/-- The lines of a text: the pieces between its line feeds, at least one. -/
def lines : Text → List Text
  | [] => [[]]
  | c :: rest =>
    if c = '\n' then [] :: lines rest
    else match lines rest with
      | [] => [[c]]
      | line :: others => (c :: line) :: others

/-- What follows the last line feed. -/
def lastLine (s : Text) : Text := (s.reverse.takeWhile (· != '\n')).reverse

/-- The number of line feeds in a text. -/
def breaks (s : Text) : Nat := s.count '\n'

end Shorthand.Text
