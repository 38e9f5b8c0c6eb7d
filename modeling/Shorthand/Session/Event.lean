import Shorthand.Table

set_option autoImplicit false
set_option relaxedAutoImplicit false

/-!
# Events of the application

What the application tells those who have subscribed: a malformed record, a new table, an expanded
trigger.

## Main definitions

* `Shorthand.Event` — the events, with what they carry.
* `Shorthand.Hook` — the handlers that can subscribe.
-/

namespace Shorthand

/-- An event with what it carries. -/
inductive Event where
  /-- A record of the new table's source is malformed. -/
  | malformed (diagnostic : Diagnostic)
  /-- A new table is in use. -/
  | reloaded (table : Table)
  /-- A trigger was expanded, by a key or by the explicit command. The shape of the snippet is told
  beside it. -/
  | triggered (snippet : Snippet) (shape : Shape) (key : Text)
  deriving DecidableEq, Repr

/-- The name that handlers subscribe to. -/
def Event.name : Event → Text
  | .malformed _ => "snippets.parse_error".toList
  | .reloaded _ => "snippets.reloaded".toList
  | .triggered _ _ _ => "snippet.triggered".toList

/-- The names of the events, in the order in which a recorder subscribes to them. -/
def Event.names : List Text :=
  ["snippets.parse_error".toList, "snippets.reloaded".toList, "snippet.triggered".toList]

/-- What the explicit command counts as, in place of a key. -/
def Event.commandKey : Text := "command".toList

/-- The handlers that can subscribe. -/
inductive Hook where
  /-- It keeps the events. -/
  | recording
  /-- It fails. -/
  | failing
  /-- It reloads the table. -/
  | reloading
  deriving DecidableEq, Repr

/-- The name of a handler. -/
def Hook.name : Hook → Text
  | .recording => "record".toList
  | .failing => "raising".toList
  | .reloading => "reloading".toList

end Shorthand
