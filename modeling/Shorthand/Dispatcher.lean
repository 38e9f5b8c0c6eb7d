import Shorthand.Table
import Shorthand.Trigger.Channel

set_option autoImplicit false
set_option relaxedAutoImplicit false

/-!
# The dispatcher

Every key press that the host delivers goes to the channel of its key, if it has one that is enabled
and no shift was held. A channel that fails is reported to the log, and the press counts as not
handled.

## Main definitions

* `Shorthand.KeyPress` — a key by its name, with or without shift.
* `Shorthand.KeyResult` — whether a channel ran, and what it expanded.
* `Shorthand.Dispatcher` — the three channels, and whether triggers may span lines.
* `Shorthand.Dispatcher.configure` — the channels get the modes of the settings.
* `Shorthand.Dispatcher.dispatch` — one key press.

## Main results

* `Shorthand.Dispatcher.dispatch_of_not_routed` — a press that no channel takes changes nothing.
-/

namespace Shorthand

/-- A key press. -/
structure KeyPress where
  key : Text
  shift : Bool := false
  deriving DecidableEq, Repr

/-- What became of a key press. -/
structure KeyResult where
  /-- Whether a channel ran to its end. -/
  handled : Bool := false
  /-- The snippet that was expanded. -/
  snippet : Option Snippet := none
  deriving DecidableEq, Repr

/-- The channels of the keys. -/
structure Dispatcher where
  space : Channel := {}
  tab : Channel := {}
  enter : Channel := {}
  /-- Whether triggers may start before the line of the cursor. -/
  multiline : Bool := true
  deriving DecidableEq, Repr

namespace Dispatcher

/-- The channel of a key. -/
def channel (d : Dispatcher) : Key → Channel
  | .space => d.space
  | .tab => d.tab
  | .enter => d.enter

/-- The dispatcher with another channel for a key. -/
def setChannel (d : Dispatcher) (c : Channel) : Key → Dispatcher
  | .space => { d with space := c }
  | .tab => { d with tab := c }
  | .enter => { d with enter := c }

/-- The dispatcher with another mode for a key. -/
def setMode (d : Dispatcher) (m : Mode) (k : Key) : Dispatcher :=
  d.setChannel { d.channel k with mode := m } k

/-- Keys get the modes that settings give them, one after the other, up to one that the log fails
at. -/
def configureKeys (handling : Log.Handling) (setting : Key → Value) :
    List Key → Dispatcher → (Log × Except Failure Unit) × Dispatcher
  | [], d => (([], .ok ()), d)
  | k :: rest, d =>
    match Mode.report handling (setting k) with
    | (log, .error f) => ((log, .error f), d)
    | (log, .ok ()) =>
      let ((more, result), d) :=
        configureKeys handling setting rest (d.setMode (.ofValue (setting k)) k)
      ((log ++ more, result), d)

/-- The keys get the modes that settings give them. What comes of the reports stands first. -/
def configure (handling : Log.Handling) (setting : Key → Value) (d : Dispatcher) :
    (Log × Except Failure Unit) × Dispatcher :=
  configureKeys handling setting Key.all d

/-- The key whose channel takes a press. -/
def route (d : Dispatcher) (p : KeyPress) : Option Key :=
  if p.shift then none else (Key.ofName? p.key).filter fun k => (d.channel k).isEnabled

/-- One key press that the host has delivered. -/
def dispatch (d : Dispatcher) (t : Table) (p : KeyPress) (h : Host) :
    KeyResult × Dispatcher × Host :=
  match d.route p with
  | none => ({}, d, h)
  | some k =>
    match (d.channel k).handle k t.snippets d.multiline h with
    | (.ok found, c, h) => ({ handled := true, snippet := found }, d.setChannel c k, h)
    | (.error _, c, h) =>
      ({}, d.setChannel c k, { h with log := h.log ++ [.channelFailed p.key] })

/-- **A press that no channel takes changes nothing:** neither the host nor any channel. -/
theorem dispatch_of_not_routed {d : Dispatcher} {p : KeyPress} (hr : d.route p = none) (t : Table)
    (h : Host) : d.dispatch t p h = ({}, d, h) := by
  simp [dispatch, hr]

end Dispatcher

end Shorthand
