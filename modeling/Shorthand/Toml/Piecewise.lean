import Shorthand.Toml.Write
import Shorthand.Value.Literal

set_option autoImplicit false
set_option relaxedAutoImplicit false

/-!
# Documents that are written in part

A document is written piece by piece: the header of a table, a plain entry, an empty line. A number
with too many digits cannot be written, and the writing ends at the piece that has it. What was
written before stays.

## Main definitions

* `Shorthand.Toml.Piece` — a piece of a document.
* `Shorthand.Toml.pieces` — the pieces of a document, in order.
* `Shorthand.Toml.writeUntil` — what is written of a document, and whether that is all of it.
-/

namespace Shorthand.Toml

/-- A piece of a document. It is written as a whole, or not at all when it has a number with too
many digits. -/
structure Piece where
  text : Text
  isTooLong : Bool := false
  deriving DecidableEq, Repr

/-- Whether a number with too many digits is met when it is to be seen whether all tables of an
array fit on lines. The tables after one that does not fit are not looked at. -/
def isUnsettled : Value → Bool
  | .array items =>
    isTableArray (.array items) &&
      (items.find? fun v => v.isTooLong || !fitsOnLine v).any Value.isTooLong
  | _ => false

/-- The plain entries of a table, one a piece. -/
def plainPieces (entries : Entries Value) : List Piece :=
  (entries.filter fun (_, v) => isPlain v).map fun (k, v) =>
    ⟨writeKey k ++ " = ".toList ++ writeInline 0 v ++ ['\n'], v.isTooLong⟩

/-- The empty line before a table that has something before it. -/
def gap (after : Bool) : List Piece := if after then [⟨['\n'], false⟩] else []

mutual

/-- The pieces of a table. Before the first of them it is seen how each entry is to be written. -/
def tablePieces (name : Text) (inArray : Bool) (entries : List (Text × Value)) : List Piece :=
  let header := tableHeader name inArray entries
  ⟨[], entries.any fun (_, v) => isUnsettled v⟩ :: ⟨header, false⟩ :: plainPieces entries ++
    subtablePieces name (!(header ++ writePlain entries).isEmpty) entries

/-- The pieces of the subtables of a table. -/
def subtablePieces (name : Text) (after : Bool) : List (Text × Value) → List Piece
  | [] => []
  | (key, .table entries) :: rest =>
    gap after ++ tablePieces (subName name key) false entries ++ subtablePieces name true rest
  | (key, .array items) :: rest =>
    if isPlain (.array items) then subtablePieces name after rest
    else itemPieces (subName name key) after items ++ subtablePieces name true rest
  | (_, _) :: rest => subtablePieces name after rest

/-- The pieces of the tables of an array. -/
def itemPieces (name : Text) (after : Bool) : List Value → List Piece
  | [] => []
  | .table entries :: rest =>
    gap after ++ tablePieces name true entries ++ itemPieces name true rest
  | _ :: rest => itemPieces name after rest

end

/-- The pieces of a document, in order. -/
def pieces (entries : Entries Value) : List Piece := tablePieces [] false entries

/-- What is written of a document, and whether that is all of it. -/
def writeUntil (entries : Entries Value) : Text × Bool :=
  (((pieces entries).takeWhile (!·.isTooLong)).flatMap (·.text),
    (pieces entries).all (!·.isTooLong))

end Shorthand.Toml
