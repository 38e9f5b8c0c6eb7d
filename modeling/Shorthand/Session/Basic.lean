import Shorthand.Bus.Basic
import Shorthand.Keyboard
import Shorthand.Session.Event
import Shorthand.Settings.Store

set_option autoImplicit false
set_option relaxedAutoImplicit false

/-!
# The application and its state

The application owns the settings, the table and the channels, and works on one document. A run of
it ends with a result or a failure, and leaves a state in either case. Handlers may reload the
table, and that emits events again; a run is followed to a depth of events within events and has no
result at all beyond it.

## Main definitions

* `Shorthand.Session` — the state.
* `Shorthand.Run` — what the application does.
* `Shorthand.Session.emit` — an event for the handlers.
* `Shorthand.Session.reload` — a new table from the settings.
-/

namespace Shorthand

/-- The state of the application. -/
structure Session where
  settings : Settings := {}
  dispatcher : Dispatcher := {}
  table : Table := {}
  /-- What the table was last made from, or was to be made from. -/
  tableKey : Option TableKey := none
  bus : Bus Hook := {}
  /-- The events that the recording handler has kept. -/
  events : List Event := []
  files : Files := {}
  /-- What the log does with entries that cannot be put into words. -/
  logging : Log.Handling := .lenient
  /-- The document, and the log of all parts. -/
  host : Host

/-- What the application does: it ends with a result or a failure, unless its events never end. -/
abbrev Run := ExceptT Failure (StateT Session Option)

namespace Session

/-- How deep events within events are followed. -/
def maxDepth : Nat := 330

/-! ## Reporting and editing -/

/-- Entries in the log. -/
def report (log : Log) (s : Session) : Session :=
  { s with host := { s.host with log := s.host.log ++ log } }

/-- Entries in the log. -/
def note (log : Log) : Run Unit := modify (report log)

/-- A result that was computed with a log. -/
def take {α : Type} (r : Log × Except Failure α) : Run α := do
  note r.1
  match r.2 with
  | .ok a => return a
  | .error f => throw f

/-- An edit of the document. -/
def edit {α : Type} (e : Edit α) : Run α := do
  let s ← get
  match e s.host with
  | .ok a h =>
    set { s with host := h }
    return a
  | .error f h =>
    set { s with host := h }
    throw f

/-! ## Events and reloads -/

/-- A handler subscribes to an event. -/
def subscribe (event : Text) (hook : Hook) (s : Session) : Session :=
  report [.subscribed hook.name event] { s with bus := s.bus.on event hook }

/-- The state at the end of a run, and whether the run came to its end. -/
def outcome {α : Type} (r : Run α) (s : Session) : Option (Bool × Session) :=
  (r.run.run s).map fun (result, s) => (result.isOk, s)

/-- The events of a reload: one for each malformed record, then one for the table. -/
def reloadEvents (t : Table) : List Event := t.diagnostics.map .malformed ++ [.reloaded t]

/-- Events one after the other. -/
def emitAll (emit : Event → Session → Option Session) : List Event → Session → Option Session
  | [], s => some s
  | e :: rest, s => (emit e s).bind (emitAll emit rest)

/-- What the events of a program do to its state. -/
def afterEvents (f : Session → Option Session) : Run Unit := do
  let s ← get
  let s ← (f s : Option Session)
  set s

/-- A new table from the settings. What it is made from is remembered first; the table is put in
place when it is whole, and the events come after that. -/
def reloadWith (emit : Event → Session → Option Session) : Run Table := do
  let s ← get
  let key ← take (s.settings.snippets.tableKey s.files)
  modify fun s => { s with tableKey := some key }
  let reading ← take (s.settings.snippets.read s.files)
  let t := s.table.next reading
  modify fun s => { s with table := t }
  note [t.loadedEntry]
  afterEvents (emitAll emit (reloadEvents t))
  return t

/-- A handler runs for an event. -/
def callHook (emit : Event → Session → Option Session) (e : Event) :
    Hook → Session → Option (Bool × Session)
  | .recording, s => some (true, { s with events := s.events ++ [e] })
  | .failing, s => some (false, s)
  | .reloading, s => outcome (reloadWith emit) s

/-- An event for the handlers, followed to a depth of events within events. -/
def emit : Nat → Event → Session → Option Session
  | 0, _, _ => none
  | depth + 1, e, s =>
    s.bus.emit
      { name := Hook.name, note := fun entry => report [entry], call := callHook (emit depth) e }
      e.name s

/-- An event for the handlers. -/
def tell (e : Event) : Run Unit := afterEvents (emit maxDepth e)

/-- A new table from the settings. -/
def reload : Run Table := reloadWith (emit maxDepth)

/-! ## The life of the application -/

/-- The channels get the modes of the settings. Those before one that the log fails at keep them. -/
def configure (t : TriggerSettings) : Run Unit := do
  let s ← get
  let (reported, dispatcher) := s.dispatcher.configure s.logging t.ofKey
  set { s with dispatcher }
  take reported

/-- Whether triggers may span lines. -/
def setMultiline (multiline : Bool) : Run Unit :=
  modify fun s => { s with dispatcher := { s.dispatcher with multiline } }

/-- The application with its settings, before its first table. -/
def start (settings : Settings) : Run Unit := do
  modify fun s => { s with settings }
  configure settings.triggers
  setMultiline settings.snippets.multiline.isTrue

/-- The application with the settings of the user's file. -/
def startFromFile : Run Unit := do
  let s ← get
  start (← take (Settings.load s.files (Settings.defaultPath s.files)))

/-- The first table. -/
def setup : Run Unit := do
  note [.settingUp]
  discard reload

/-- New settings. The table is made anew only when what it depends on is not what it was last made
from. -/
def updateSettings (settings : Settings) : Run Unit := do
  modify fun s => { s with settings }
  configure settings.triggers
  setMultiline settings.snippets.multiline.isTrue
  let s ← get
  let key ← take (settings.snippets.tableKey s.files)
  if s.tableKey.any key.agrees then return ()
  else discard reload

/-! ## Triggers -/

/-- The explicit command: the trigger before the cursor is expanded. -/
def trigger : Run (Option Snippet) := do
  let s ← get
  let found ← edit do
    Match.tryTrigger (← Host.getCursor) s.table.snippets s.settings.snippets.multiline.isTrue
  match found with
  | none => note [.nothingAtCursor]
  | some snippet => tell (.triggered snippet snippet.shape Event.commandKey)
  return found

/-- A key press that the host has delivered. -/
def handleKey (p : KeyPress) : Run KeyResult := do
  let s ← get
  let (result, dispatcher, host) := s.dispatcher.dispatch s.table p s.host
  set { s with dispatcher, host }
  match result.snippet with
  | none => return result
  | some snippet =>
    tell (.triggered snippet snippet.shape p.key)
    return result

/-- A key is pressed. -/
def press (p : KeyPress) : Run KeyResult := do
  edit (Keyboard.before p.key)
  let result ← handleKey p
  edit (Keyboard.after p.key)
  return result

end Session

end Shorthand
