import Shorthand.Dispatcher

set_option autoImplicit false
set_option relaxedAutoImplicit false

/-!
# Key presses

What a host does by itself when a key is pressed, and when it delivers the press: the space is
delivered before it is typed, Tab when the line has been indented, Enter when the line has been
broken and its indentation copied.

## Main definitions

* `Shorthand.Keyboard.before`, `Shorthand.Keyboard.after` — what the host does before and after it
  delivers a press.
* `Shorthand.Keyboard.press` — a press with both.
-/

namespace Shorthand.Keyboard

/-- A text is inserted at the cursor. -/
def insertAtCursor (inserted : Text) : Edit Unit := do
  let cursor ← Host.getCursor
  Host.replaceRange cursor cursor inserted

/-- The line is broken, and the new one starts with the same spaces and tabs. -/
def breakLine : Edit Unit := do
  let (line, _) ← Host.offsetToPos (← Host.getCursor)
  let cursor ← Host.getCursor
  let d ← Host.look
  Host.replaceRange cursor cursor ('\n' :: d.leadingWhitespace line)

/-- What the host does before it delivers a press. -/
def before (key : Text) : Edit Unit :=
  match Key.ofName? key with
  | some .space => return ()
  | some .tab => Host.indent
  | some .enter => breakLine
  | none => Host.note (.noDefaultAction (.text key))

/-- What the host does after it has delivered a press. -/
def after (key : Text) : Edit Unit :=
  match Key.ofName? key with
  | some .space => insertAtCursor [' ']
  | _ => return ()

/-- A key is pressed. A failure of the host's own calls ends the press; what was done before it
stays. -/
def press (d : Dispatcher) (t : Table) (p : KeyPress) (h : Host) :
    Except Failure KeyResult × Dispatcher × Host :=
  match before p.key h with
  | .error f h => (.error f, d, h)
  | .ok _ h =>
    let (result, d, h) := d.dispatch t p h
    match after p.key h with
    | .error f h => (.error f, d, h)
    | .ok _ h => (.ok result, d, h)

end Shorthand.Keyboard
