import Shorthand.Text.Newlines

set_option autoImplicit false
set_option relaxedAutoImplicit false

/-!
# Documents

A text with a cursor. An offset counts the code points before it; a position is a line and a column,
both from zero. Offsets and positions may be any integers: they are moved to the nearest place that
exists.

## Main definitions

* `Shorthand.Document` — the text, the cursor and the text of one indentation.
* `Shorthand.Document.offsetToPos`, `Shorthand.Document.posToOffset` — offsets and positions.
* `Shorthand.Document.replaceRange` — the one edit that all others are made of.
* `Shorthand.Document.indent`, `Shorthand.Document.unindent` — one indentation at the cursor.

## Main results

* `Shorthand.Document.clamp_le` — a clamped offset lies in the text.
* `Shorthand.Document.text_replaceRange` — what an edit makes of the text.
-/

namespace Shorthand

/-- A text with a cursor. -/
structure Document where
  text : Text
  /-- The offset of the cursor. -/
  cursor : Nat
  /-- What one indentation inserts. -/
  indentUnit : Text := ['\t']
  deriving DecidableEq, Repr

namespace Document

/-- An offset moved into a text. -/
def clampTo (text : Text) (offset : Int) : Nat := min offset.toNat text.length

/-- A document; without a cursor it stands at the end of the text. -/
def new (text : Text) (cursor : Option Int) (indentUnit : Text := ['\t']) : Document :=
  { text, indentUnit
    cursor := match cursor with
      | none => text.length
      | some offset => clampTo text offset }

/-- An offset moved into the document. -/
def clamp (d : Document) (offset : Int) : Nat := clampTo d.text offset

/-- **A clamped offset lies in the text.** -/
theorem clamp_le (d : Document) (offset : Int) : d.clamp offset ≤ d.text.length :=
  Nat.min_le_right _ _

/-! ## Lines, offsets and positions -/

/-- The lines of the document. -/
def lines (d : Document) : List Text := Text.lines d.text

/-- The number of lines, at least one. -/
def lineCount (d : Document) : Nat := d.lines.length

/-- The length of a line without its line break; zero for one that does not exist. -/
def lineLength (d : Document) (line : Int) : Nat :=
  if 0 ≤ line then (d.lines[line.toNat]?.map List.length).getD 0 else 0

/-- The position of an offset: the line breaks before it, and the characters since the last one. -/
def offsetToPos (d : Document) (offset : Int) : Nat × Nat :=
  let before := d.text.take (d.clamp offset)
  (Text.breaks before, (before.reverse.takeWhile (· != '\n')).length)

/-- The offset of a position: all lines before with their line breaks, and the column. -/
def posToOffset (d : Document) (line column : Int) : Nat :=
  let l := min line.toNat (d.lineCount - 1)
  let before := (d.lines.take l).foldl (fun n s => n + (s.length + 1)) 0
  before + min column.toNat ((d.lines[l]?.map List.length).getD 0)

/-- The offset of the end of a line, before its line break. -/
def lineEndOffset (d : Document) (line : Int) : Nat := d.posToOffset line (d.lineLength line)

/-- The spaces and tabs that a line starts with. -/
def leadingWhitespace (d : Document) (line : Int) : Text :=
  if 0 ≤ line then (d.lines[line.toNat]?.getD []).takeWhile fun c => c == ' ' || c == '\t' else []

/-! ## Reading and editing -/

/-- The text between two offsets; nothing when the second is before the first. -/
def getRange (d : Document) (start stop : Int) : Text :=
  (d.text.take (d.clamp stop)).drop (d.clamp start)

/-- The document with its cursor moved. -/
def setCursor (d : Document) (offset : Int) : Document := { d with cursor := d.clamp offset }

/-- The document with the text between two offsets replaced, whichever comes first. A cursor at or
after the end of the range stays before the text that follows it; one inside goes to the end of the
new text; one at or before the start stays. -/
def replaceRange (d : Document) (start stop : Int) (replacement : Text) : Document :=
  let a := min (d.clamp start) (d.clamp stop)
  let b := max (d.clamp start) (d.clamp stop)
  { d with
    text := d.text.take a ++ replacement ++ d.text.drop b
    cursor :=
      if b ≤ d.cursor then d.cursor - (b - a) + replacement.length
      else if a < d.cursor then a + replacement.length
      else d.cursor }

/-- **What an edit makes of the text.** -/
theorem text_replaceRange (d : Document) (start stop : Int) (replacement : Text) :
    (d.replaceRange start stop replacement).text =
      d.text.take (min (d.clamp start) (d.clamp stop)) ++ replacement ++
        d.text.drop (max (d.clamp start) (d.clamp stop)) := rfl

/-- One indentation inserted at the cursor. -/
def indent (d : Document) : Document := d.replaceRange d.cursor d.cursor d.indentUnit

/-- Where an indentation before the cursor starts, if there is one. -/
def indentStart? (d : Document) : Option Nat :=
  if d.indentUnit.length ≤ d.cursor &&
      d.getRange (d.cursor - d.indentUnit.length : Nat) d.cursor == d.indentUnit then
    some (d.cursor - d.indentUnit.length)
  else none

/-- One indentation before the cursor removed, if there is one. -/
def unindent (d : Document) : Document :=
  match d.indentStart? with
  | some start => d.replaceRange start d.cursor []
  | none => d

end Document

end Shorthand
