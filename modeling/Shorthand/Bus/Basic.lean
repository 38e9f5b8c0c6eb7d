import Shorthand.Log

set_option autoImplicit false
set_option relaxedAutoImplicit false

/-!
# The event bus

Handlers subscribe to events by name. When an event is emitted, the handlers that are subscribed at
that moment run in the order of their subscriptions, each as often as it is subscribed. What they do
to the bus meanwhile counts only for later events, and one that fails is reported and does not stop
the others.

## Main definitions

* `Shorthand.Bus` — the subscriptions.
* `Shorthand.Bus.on`, `Shorthand.Bus.off`, `Shorthand.Bus.clear` — changes of them.
* `Shorthand.Bus.emit` — an event for a program whose state holds anything.

## Main results

* `Shorthand.Bus.handlers_on` — a subscription comes last.
-/

namespace Shorthand

/-- The subscriptions, each of a handler to an event, in the order in which they were made. -/
structure Bus (H : Type) where
  subscriptions : List (Text × H) := []
  deriving DecidableEq, Repr

namespace Bus

variable {H σ : Type}

/-- The handlers of an event, in order. -/
def handlers (b : Bus H) (event : Text) : List H :=
  b.subscriptions.filterMap fun (e, h) => if e = event then some h else none

/-- One more subscription. -/
def on (b : Bus H) (event : Text) (handler : H) : Bus H := ⟨b.subscriptions ++ [(event, handler)]⟩

/-- The first subscription of a handler to an event is removed, if there is one. -/
def off [DecidableEq H] (b : Bus H) (event : Text) (handler : H) : Bus H :=
  ⟨b.subscriptions.erase (event, handler)⟩

/-- All subscriptions are removed. -/
def clear : Bus H := ⟨[]⟩

/-- **A subscription comes last** among those of its event, and changes no other event. -/
theorem handlers_on (b : Bus H) (event other : Text) (handler : H) :
    (b.on event handler).handlers other =
      b.handlers other ++ if event = other then [handler] else [] := by
  by_cases h : event = other <;> simp [on, handlers, h]

/-- How a program is run by the events of a bus. -/
structure Program (H σ : Type) where
  /-- The name of a handler. -/
  name : H → Text
  /-- An entry in the log. -/
  note : Log.Entry → σ → σ
  /-- A handler runs; it says whether it came to its end. A run that does not end has no result. -/
  call : H → σ → Option (Bool × σ)

/-- Handlers run one after the other. -/
def Program.deliver (p : Program H σ) (event : Text) : List H → σ → Option σ
  | [], s => some s
  | h :: rest, s =>
    match p.call h s with
    | none => none
    | some (true, s) => p.deliver event rest s
    | some (false, s) => p.deliver event rest (p.note (.handlerFailed (p.name h) event) s)

/-- An event is emitted. Without handlers nothing happens at all. -/
def emit (b : Bus H) (p : Program H σ) (event : Text) (s : σ) : Option σ :=
  match b.handlers event with
  | [] => some s
  | hs => p.deliver event hs (p.note (.emitting event hs.length) s)

end Bus

end Shorthand
