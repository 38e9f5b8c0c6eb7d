import Shorthand.Document
import Shorthand.Failure
import Shorthand.Log

set_option autoImplicit false
set_option relaxedAutoImplicit false

/-!
# The host editor

The engine reaches a document only through the calls of its host. A host may refuse one call: then
the call does nothing and the edit ends there, with all that was done before it. What was called is
kept, and so is the log that all parts of the program write to.

## Main definitions

* `Shorthand.Host` — a document in its editor.
* `Shorthand.Edit` — what the engine does to a host: it ends with a result or with a failure, and
  leaves a host in either case.
* `Shorthand.Host.getCursor`, … — the calls.

## Design

A nested call (an indentation is a replacement) is a call of its own: it can be refused, and it is
kept after the call that made it.
-/

namespace Shorthand

namespace Host

/-- The calls of a host. -/
inductive Method where
  | getCursor
  | setCursor
  | offsetToPos
  | posToOffset
  | getRange
  | replaceRange
  | lineLength
  | indent
  | unindent
  deriving DecidableEq, Repr

/-- A call that changes a document, with its arguments as given. -/
inductive Call where
  | setCursor (offset : Int)
  | replaceRange (start stop : Int) (replacement : Text)
  | indent
  | unindent
  deriving DecidableEq, Repr

/-- The call of a method that will be refused: the one after `skip` others. -/
structure Refusal where
  method : Method
  skip : Nat
  deriving DecidableEq, Repr

end Host

/-- A document in its editor. -/
structure Host where
  document : Document
  /-- The call that will be refused, if any. -/
  refusal : Option Host.Refusal := none
  /-- The changing calls so far. -/
  calls : List Host.Call := []
  /-- The log so far. -/
  log : Log := []

/-- What the engine does to a host. -/
abbrev Edit := EStateM Failure Host

namespace Host

/-! ## Calls -/

/-- A call counts towards the refusal of its method. -/
def attempt (m : Method) : Edit Unit := fun h =>
  match h.refusal with
  | some r =>
    if r.method = m then
      match r.skip with
      | 0 => .error .refused { h with refusal := none }
      | n + 1 => .ok () { h with refusal := some { r with skip := n } }
    else .ok () h
  | none => .ok () h

/-- A changing call is kept. -/
def keep (c : Call) : Edit Unit := fun h => .ok () { h with calls := h.calls ++ [c] }

/-- An entry in the log. -/
def note (e : Log.Entry) : Edit Unit := fun h => .ok () { h with log := h.log ++ [e] }

/-- The document as it is; reading it is no call. -/
def look : Edit Document := fun h => .ok h.document h

/-- A change of the document. -/
def change (f : Document → Document) : Edit Unit := fun h =>
  .ok () { h with document := f h.document }

/-- The offset of the cursor. -/
def getCursor : Edit Int := do
  attempt .getCursor
  return (← look).cursor

/-- The cursor moves. -/
def setCursor (offset : Int) : Edit Unit := do
  keep (.setCursor offset)
  attempt .setCursor
  change fun d => d.setCursor offset

/-- The position of an offset. -/
def offsetToPos (offset : Int) : Edit (Nat × Nat) := do
  attempt .offsetToPos
  return (← look).offsetToPos offset

/-- The offset of a position. -/
def posToOffset (line column : Int) : Edit Int := do
  attempt .posToOffset
  return (← look).posToOffset line column

/-- The text between two offsets. -/
def getRange (start stop : Int) : Edit Text := do
  attempt .getRange
  return (← look).getRange start stop

/-- The text between two offsets is replaced. -/
def replaceRange (start stop : Int) (replacement : Text) : Edit Unit := do
  keep (.replaceRange start stop replacement)
  attempt .replaceRange
  change fun d => d.replaceRange start stop replacement

/-- The length of a line. -/
def lineLength (line : Int) : Edit Int := do
  attempt .lineLength
  return (← look).lineLength line

/-- The offset of the end of a line. -/
def lineEndOffset (line : Int) : Edit Int := do
  posToOffset line (← lineLength line)

/-- One indentation is inserted at the cursor. -/
def indent : Edit Unit := do
  keep .indent
  attempt .indent
  let d ← look
  replaceRange d.cursor d.cursor d.indentUnit

/-- One indentation before the cursor is removed, if there is one. -/
def unindent : Edit Unit := do
  keep .unindent
  attempt .unindent
  let d ← look
  match d.indentStart? with
  | some start => replaceRange start d.cursor []
  | none => return ()

end Host

end Shorthand
