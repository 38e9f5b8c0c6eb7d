import Shorthand.Escape
import Shorthand.Failure
import Shorthand.Log

set_option autoImplicit false
set_option relaxedAutoImplicit false

/-!
# Snippet sources

A source is a text of records between dividers. A record is trimmed; a blank one says nothing. Any
other is cut at the first part divider into a trigger and a written expansion, or it is malformed
and reported. A trigger that is defined again keeps its place in the table and takes the new
expansion.

## Main definitions

* `Shorthand.Divider.split` — the pieces between dividers.
* `Shorthand.Source.records` — the records that say something, with their places.
* `Shorthand.Source.Outcome` — what a record says.
* `Shorthand.Source.Reading` — what the records of a source define.
* `Shorthand.Source.parse` — the reading of a source.

## Design

Reading is a fold of `Shorthand.Source.Reading.add` over the records. What is reported to the log is
computed beside it, so that the reading itself says nothing about the log.
-/

namespace Shorthand

namespace Divider

/-- The mark that stands for a line break between records: a backslash and the letter `n`. -/
def newlineMark : Text := ['\\', 'n']

/-- The divider that a setting gives: a text, or null for blanks. -/
def ofValue : Value → Divider
  | .text t => .text t
  | .null => .blanks
  | _ => .unusable

/-- The divider between records, with the mark for a line break resolved. -/
def betweenRecords : Divider → Divider
  | .text t => .text (if t = newlineMark then ['\n'] else t)
  | d => d

/-- The pieces of a text between dividers. -/
def split : Divider → Text → Except Failure (List Text)
  | .text d, s => if d.isEmpty then .error .emptyDivider else .ok (Text.splitOn d s)
  | .blanks, s => .ok (Text.words s)
  | .unusable, _ => .error .dividerNotText

end Divider

namespace Source

/-! ## Records -/

/-- The pieces that are not blank, each trimmed and with its place among all pieces. -/
def records (pieces : List Text) : List (Nat × Text) :=
  (pieces.zipIdx.map fun (piece, index) => (index, Text.trim piece)).filter fun (_, record) =>
    !record.isEmpty

/-- What a record says. -/
inductive Outcome where
  /-- The record is malformed. -/
  | rejected (reason : Reason)
  /-- The record defines a trigger. -/
  | defines (trigger raw : Text)
  deriving DecidableEq, Repr

/-- What a record says, cut at the first occurrence of a text. -/
def outcomeAt (divider record : Text) : Outcome :=
  match Text.cut divider record with
  | none => .rejected (.missingDivider (.text divider))
  | some ([], _) => .rejected .emptyTrigger
  | some (trigger, raw) => .defines trigger raw

/-- What a trimmed record says. Blanks can cut a record, but they cannot be put back between the
parts of its expansion. -/
def outcome (parts : Divider) (record : Text) : Except Failure Outcome :=
  match parts with
  | .text d => if d.isEmpty then .error .emptyDivider else .ok (outcomeAt d record)
  | .blanks =>
    if (Text.words record).length ≤ 1 then .ok (.rejected (.missingDivider .blanks))
    else .error .dividerCannotJoin
  | .unusable => .error .dividerNotText

/-! ## Readings -/

/-- What the records of a source define, and those that define nothing. -/
structure Reading where
  snippets : Entries Expansion := []
  diagnostics : List Diagnostic := []
  deriving DecidableEq, Repr

/-- The reading with one more record. -/
def Reading.add (r : Reading) (index : Nat) (record : Text) : Outcome → Reading
  | .rejected reason => { r with diagnostics := r.diagnostics ++ [⟨index, record, reason⟩] }
  | .defines trigger raw =>
    { r with snippets := Entries.insert r.snippets trigger (Escape.compile raw) }

/-- The reading with more records, up to the first that cannot be cut. -/
def gather (parts : Divider) : Reading → List (Nat × Text) → Except Failure Reading
  | r, [] => .ok r
  | r, (index, record) :: rest => do
    gather parts (r.add index record (← outcome parts record)) rest

/-- The reading of a source. -/
def parse (between parts : Divider) (source : Text) : Except Failure Reading := do
  gather parts {} (records (← between.betweenRecords.split source))

/-! ## The log of a reading -/

/-- The log of a written expansion. -/
def expansionLog (raw : Text) : Log :=
  let count := Escape.cursorCount (Escape.scan raw)
  if 1 < count then [.manyCursors raw count] else []

/-- The log of one record. -/
def Reading.report (r : Reading) (index : Nat) (record : Text) : Outcome → Log
  | .rejected reason => [.malformed ⟨index, record, reason⟩]
  | .defines trigger raw =>
    (if Entries.has r.snippets trigger then [.redefined trigger index] else []) ++ expansionLog raw

/-- The log of records: one that cannot be cut ends it, and the summary comes only after the
last. -/
def gatherLog (parts : Divider) : Reading → List (Nat × Text) → Log
  | r, [] => [.parsed r.snippets.length r.diagnostics.length]
  | r, (index, record) :: rest =>
    match outcome parts record with
    | .error _ => []
    | .ok o => r.report index record o ++ gatherLog parts (r.add index record o) rest

/-- The log of a source. -/
def parseLog (between parts : Divider) (source : Text) : Log :=
  match between.betweenRecords.split source with
  | .error _ => []
  | .ok pieces => gatherLog parts {} (records pieces)

/-! ## Sources and dividers as settings give them -/

/-- The reading of a source that may be any value, and its log. -/
def parseValues (source between parts : Value) : Log × Except Failure Reading :=
  match source with
  | .text s =>
    (parseLog (.ofValue between) (.ofValue parts) s, parse (.ofValue between) (.ofValue parts) s)
  | _ => ([], .error .sourceNotText)

end Source

end Shorthand
