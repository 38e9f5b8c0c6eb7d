import Shorthand.Bus.Basic
import Shorthand.Value.Basic

set_option autoImplicit false
set_option relaxedAutoImplicit false

/-!
# Handlers as scripts

Handlers whose work is a list of actions on the bus that calls them. They may emit events
themselves, also the one that they handle, so a run may not end; it is followed to a given depth
of events within events, and beyond that it has no result.

## Main definitions

* `Shorthand.Bus.Action` — what a handler can do.
* `Shorthand.Bus.Stage` — the bus, what the handlers were called with, and the log.
* `Shorthand.Bus.Stage.emit` — an event.
* `Shorthand.Bus.Stage.perform` — a list of actions.
-/

namespace Shorthand.Bus

/-- What a handler can do. -/
inductive Action where
  | on (event handler : Text)
  | off (event handler : Text)
  | emit (event : Text) (arguments : Value)
  | clear
  /-- The handler fails, and does nothing after that. -/
  | fail

/-- Where scripted handlers run. -/
structure Stage where
  bus : Bus Text := {}
  /-- The handlers that were called, with their arguments. -/
  calls : List (Text × Value) := []
  log : Log := []

namespace Stage

/-- An entry in the log. -/
def note (e : Log.Entry) (s : Stage) : Stage := { s with log := s.log ++ [e] }

/-- The bus is changed. -/
def change (s : Stage) (f : Bus Text → Bus Text) : Stage := { s with bus := f s.bus }

/-- The names that the arguments of an event may not have, for the call that emits it has them. -/
def reservedNames : List Text := ["self".toList, "event".toList]

/-- Whether an event can be emitted with arguments: a table without reserved names. -/
def canCarry : Value → Bool
  | .table entries => !reservedNames.any fun name => Entries.has entries name
  | _ => false

/-- Actions one after the other, up to one that fails; `emit` is what an event does. The result says
whether they came to their end. -/
def performWith (emit : Text → Value → Stage → Option Stage) :
    List Action → Stage → Option (Bool × Stage)
  | [], s => some (true, s)
  | .fail :: _, s => some (false, s)
  | .clear :: rest, s => performWith emit rest (s.change fun _ => Bus.clear)
  | .off event handler :: rest, s => performWith emit rest (s.change (·.off event handler))
  | .on event handler :: rest, s =>
    performWith emit rest (note (.subscribed handler event) (s.change (·.on event handler)))
  | .emit event arguments :: rest, s =>
    if canCarry arguments then (emit event arguments s).bind (performWith emit rest)
    else some (false, s)

/-- A handler is called: the call is kept, then its script runs. -/
def callWith (emit : Text → Value → Stage → Option Stage) (scripts : Entries (List Action))
    (arguments : Value) (handler : Text) (s : Stage) : Option (Bool × Stage) :=
  performWith emit ((Entries.find? scripts handler).getD [])
    { s with calls := s.calls ++ [(handler, arguments)] }

/-- An event, followed to a depth of events within events. -/
def emit (scripts : Entries (List Action)) : Nat → Text → Value → Stage → Option Stage
  | 0, _, _, _ => none
  | depth + 1, event, arguments, s =>
    s.bus.emit
      { name := id, note := note, call := callWith (emit scripts depth) scripts arguments } event s

/-- A list of actions, followed to a depth of events within events. -/
def perform (scripts : Entries (List Action)) (depth : Nat) (actions : List Action) (s : Stage) :
    Option (Bool × Stage) :=
  performWith (emit scripts depth) actions s

end Stage

end Shorthand.Bus
