import Shorthand.Proofs.Document.Edit
import Shorthand.Proofs.Text.Lines

set_option autoImplicit false
set_option relaxedAutoImplicit false

/-!
# Lines of a document

A document finds the line of an offset by counting line breaks, and the offset of a line by adding
up lengths. This file says what comes of the one after the other: where the line of an offset
starts, what stands on it, and where a line ends that a break follows.

## Main definitions

* `Shorthand.Document.currentLine` — the line of the cursor.

## Main results

* `Shorthand.Document.posToOffset_line` — where the line of an offset starts.
* `Shorthand.Document.lineEndOffset_breaks` — where the line before a line break ends.
* `Shorthand.Document.leadingWhitespace_currentLine` — what indents the line of the cursor.
-/

namespace Shorthand.Document

/-- The line of the cursor: what follows the last line feed before it and what precedes the first
one after it. -/
def currentLine (d : Document) : Text :=
  Text.lastLine (d.text.take d.cursor) ++ Text.firstLine (d.text.drop d.cursor)

/-- What is moved into the text first has the same position. -/
lemma offsetToPos_clamp (d : Document) (offset : Int) :
    d.offsetToPos (d.clamp offset) = d.offsetToPos offset := by
  simp only [offsetToPos, clamp_natCast (d.clamp_le offset)]

/-- The position of an offset in the text: the line feeds before it, and what follows the last of
them. -/
lemma offsetToPos_natCast {d : Document} {n : Nat} (hn : n ≤ d.text.length) :
    d.offsetToPos n = (Text.breaks (d.text.take n), (Text.lastLine (d.text.take n)).length) := by
  simp only [offsetToPos, clamp_natCast hn, Text.lastLine, List.length_reverse]

/-- The line of an offset in the text is the number of line feeds before it. -/
lemma offsetToPos_fst {d : Document} {n : Nat} (hn : n ≤ d.text.length) :
    (d.offsetToPos n).1 = Text.breaks (d.text.take n) := by
  rw [offsetToPos_natCast hn]

/-- A text cut at an offset has its lines. -/
private lemma lines_eq (d : Document) (n : Nat) :
    d.lines = Text.lines (d.text.take n ++ d.text.drop n) := by
  rw [List.take_append_drop, lines]

/-- The line of an offset exists. -/
lemma line_lt_lineCount (d : Document) (n : Nat) : Text.breaks (d.text.take n) < d.lineCount := by
  rw [lineCount, lines_eq d n, Text.length_lines, Text.breaks_append]
  omega

/-- Adding up lengths gives the room of the lines. -/
private lemma foldl_eq_room (ls : List Text) (n : Nat) :
    ls.foldl (fun n s => n + (s.length + 1)) n = n + Text.room ls := by
  induction ls generalizing n with
  | nil => rfl
  | cons l rest ih =>
    rw [List.foldl_cons, ih]
    simp only [Text.room]
    omega

/-- The length of the line of an offset, in two halves. -/
lemma lineLength_breaks (d : Document) (n : Nat) :
    d.lineLength (Text.breaks (d.text.take n)) =
      (Text.lastLine (d.text.take n)).length + (Text.firstLine (d.text.drop n)).length := by
  have hline := Text.getElem?_lines_append (d.text.take n) (d.text.drop n)
  rw [← lines_eq] at hline
  rw [lineLength, if_pos (Int.natCast_nonneg _), Int.toNat_natCast, hline, Option.map_some,
    Option.getD_some, List.length_append]

/-- A column on the line of an offset. -/
lemma posToOffset_breaks (d : Document) {n : Nat} (hn : n ≤ d.text.length) (column : Int) :
    d.posToOffset (Text.breaks (d.text.take n)) column + (Text.lastLine (d.text.take n)).length =
      n + min column.toNat (Text.lastLine (d.text.take n) ++
        Text.firstLine (d.text.drop n)).length := by
  have hlt := line_lt_lineCount d n
  have hroom := Text.room_take_lines (d.text.take n) (d.text.drop n)
  rw [← lines_eq, List.length_take_of_le hn] at hroom
  have hline := Text.getElem?_lines_append (d.text.take n) (d.text.drop n)
  rw [← lines_eq] at hline
  simp only [posToOffset, Int.toNat_natCast, foldl_eq_room, Nat.zero_add]
  rw [Nat.min_eq_left (by omega), hline]
  simp only [Option.map_some, Option.getD_some]
  omega

/-- **Where the line of an offset starts:** as far before it as the line has characters there. -/
theorem posToOffset_line {d : Document} {n : Nat} (hn : n ≤ d.text.length) :
    d.posToOffset (d.offsetToPos n).1 0 = n - (Text.lastLine (d.text.take n)).length := by
  have hle := (Text.lastLine_suffix (d.text.take n)).length_le
  have hcol := posToOffset_breaks d hn 0
  rw [List.length_take_of_le hn] at hle
  rw [offsetToPos_fst hn]
  simp only [Int.toNat_zero, Nat.zero_min] at hcol
  omega

/-- **Where the line before a line break ends:** right before the break. -/
theorem lineEndOffset_breaks {d : Document} {a b : Text} (h : d.text = a ++ '\n' :: b) :
    d.lineEndOffset (Text.breaks a) = a.length := by
  have hn : a.length ≤ d.text.length := by
    rw [h, List.length_append]
    omega
  have ht : d.text.take a.length = a := by rw [h, List.take_left]
  have hd : Text.firstLine (d.text.drop a.length) = [] := by
    rw [h, List.drop_left]
    rfl
  have hlen := lineLength_breaks d a.length
  rw [ht, hd, List.length_nil, Nat.add_zero] at hlen
  have hcol := posToOffset_breaks d hn (Text.lastLine a).length
  rw [ht, hd, List.append_nil, Int.toNat_natCast, Nat.min_self] at hcol
  rw [lineEndOffset, hlen]
  omega

/-- **What indents the line of the cursor:** the spaces and tabs that it starts with. -/
theorem leadingWhitespace_currentLine {d : Document} (hd : d.Valid) :
    d.leadingWhitespace (d.offsetToPos d.cursor).1 =
      d.currentLine.takeWhile fun c => c == ' ' || c == '\t' := by
  have hline := Text.getElem?_lines_append (d.text.take d.cursor) (d.text.drop d.cursor)
  rw [← lines_eq] at hline
  rw [leadingWhitespace, if_pos (Int.natCast_nonneg _), Int.toNat_natCast, offsetToPos_fst hd,
    hline]
  rfl

end Shorthand.Document
