import Shorthand.Snippet

set_option autoImplicit false
set_option relaxedAutoImplicit false

/-!
# Escapes in expansions

The written form of an expansion has three escapes, each a percent sign, a backslash and a letter:
`n` for a line break, `t` for a tab, and `e` for the place where the cursor rests, which takes no
room. Anything else stands for itself. One scan from left to right finds them.

## Main definitions

* `Shorthand.Escape.scan` — the pieces of a written expansion.
* `Shorthand.Escape.compile` — the expansion that they make.

## Main results

* `Shorthand.Escape.hasBreak_compile` — a compiled expansion says truly whether it has a line break.
-/

namespace Shorthand.Escape

/-- A piece of a written expansion: a character to insert, or the place of the cursor. -/
inductive Piece where
  | char (c : Char)
  | cursor
  deriving DecidableEq, Repr

/-- The pieces of a written expansion. -/
def scan : Text → List Piece
  | '%' :: '\\' :: 'n' :: rest => .char '\n' :: scan rest
  | '%' :: '\\' :: 't' :: rest => .char '\t' :: scan rest
  | '%' :: '\\' :: 'e' :: rest => .cursor :: scan rest
  | c :: rest => .char c :: scan rest
  | [] => []

/-- The character of a piece, if it is one. -/
def Piece.char? : Piece → Option Char
  | .char c => some c
  | .cursor => none

/-- The text that pieces insert. -/
def insertedText (pieces : List Piece) : Text := pieces.filterMap Piece.char?

/-- The number of places for the cursor. -/
def cursorCount (pieces : List Piece) : Nat := pieces.count .cursor

/-- The length of the text after the last place for the cursor; without one the cursor rests at the
end. -/
def cursorBack (pieces : List Piece) : Nat :=
  if pieces.contains .cursor then (pieces.reverse.takeWhile (· != .cursor)).length else 0

/-- The expansion of a written one. -/
def compile (raw : Text) : Expansion :=
  let pieces := scan raw
  let text := insertedText pieces
  { text, cursorBack := cursorBack pieces, hasBreak := text.contains '\n' }

/-- **A compiled expansion says truly whether it has a line break.** -/
theorem hasBreak_compile (raw : Text) :
    (compile raw).hasBreak = true ↔ '\n' ∈ (compile raw).text := by
  simp [compile]

end Shorthand.Escape
