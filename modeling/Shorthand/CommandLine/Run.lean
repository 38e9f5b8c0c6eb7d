import Shorthand.CommandLine.Arguments
import Shorthand.Session.Basic

set_option autoImplicit false
set_option relaxedAutoImplicit false

/-!
# The command

The command reads the settings, makes the table, and does one thing: it lists the table, expands a
trigger in a file, or starts the server.

## Main definitions

* `Shorthand.CommandLine.Answer` — what the command leaves behind.
* `Shorthand.CommandLine.listing` — the table as it is listed.
* `Shorthand.CommandLine.expand` — a trigger expanded in a file.
* `Shorthand.CommandLine.run` — the command.
-/

namespace Shorthand.CommandLine

/-- What the command leaves behind. -/
structure Answer where
  /-- The exit code. -/
  code : Nat
  output : Text := []
  /-- Where the server was started, by host and port. -/
  served : Option (Value × Value) := none
  /-- Why the arguments were refused, in words. -/
  rejection : Option Text := none

/-! ## Listing -/

/-- The width that the triggers of a listing are filled up to. -/
def triggerWidth : Nat := 20

/-- A snippet in a listing. -/
def snippetLine (trigger : Text) (e : Expansion) : Text :=
  "  ".toList ++ Text.padRight triggerWidth (Text.quoted trigger) ++ " -> ".toList ++
    Text.quoted e.text ++
      if e.cursorBack = 0 then []
      else "  (cursor -".toList ++ Text.ofInt e.cursorBack ++ [')']

/-- A malformed record in a listing. -/
def diagnosticLine (d : Diagnostic) : Text :=
  "  ! record ".toList ++ Text.ofNat d.index ++ ": ".toList ++ d.reason.message ++ ": ".toList ++
    Text.quoted d.record

/-- The last line of a listing. -/
def summaryLine (t : Table) : Text :=
  Text.ofNat t.snippets.length ++ " snippet(s), ".toList ++ Text.ofNat t.diagnostics.length ++
    " malformed record(s)".toList

/-- The table as it is listed. -/
def listing (t : Table) : Text :=
  ((t.snippets.map fun (trigger, e) => snippetLine trigger e) ++ t.diagnostics.map diagnosticLine ++
    [summaryLine t]).flatMap (· ++ ['\n'])

/-! ## Expanding -/

/-- A text that was read: its line ends are made line feeds, and what is no text is a failure. -/
def readText (bytes : List UInt8) : Except Failure Text :=
  match Text.decode? bytes with
  | some s => .ok (Text.unifyNewlines s)
  | none => .error .fileNotText

/-- A trigger is expanded in a text, by a key or by the explicit command. -/
def expandText (s : Text) (cursor : Option Int) (key : Option Key) : Run Answer := do
  modify fun session =>
    { session with host := { document := .new s cursor, log := session.host.log } }
  let found ← match key with
    | none => Session.trigger
    | some k => (·.snippet) <$> Session.press { key := k.name }
  let d := (← get).host.document
  Session.note [.outcome (found.map (·.trigger)) d.cursor]
  return { code := if found.isSome then 0 else 1, output := d.text }

/-- A trigger is expanded in a text as the arguments ask for. A cursor or a key that was given
without anything leads nowhere. -/
def expandAsAsked (a : Arguments) (s : Text) : Run Answer := do
  if a.lost.contains .cursor then throw .lostArgument
  if a.lost.contains .key then
    Session.note [.noDefaultAction (.array [])]
    throw .lostArgument
  expandText s a.cursor a.key

/-- A trigger is expanded in a file, or in what was typed when the name is a dash. -/
def expand (a : Arguments) (name stdin : Text) : Run Answer := do
  if name = ['-'] then expandAsAsked a (Text.unifyNewlines stdin)
  else if name.contains '\x00' then throw .nulInFileName
  else
    let p := Path.parse name
    match (← get).files.read p with
    | .error fault =>
      Session.note [.cannotRead name p.toText fault]
      return { code := 2 }
    | .ok bytes => expandAsAsked a (← readText bytes)

/-! ## Serving -/

/-- The number of a port, without its fraction. -/
def portNumber : Value → Except Failure Int
  | .bool b => .ok (if b then 1 else 0)
  | .int n => .ok n
  | .float .nan => .error .portNaN
  | .float x => match x.truncate? with
    | some n => .ok n
    | none => .error .portInfinite
  | _ => .error .portNotNumber

/-- The report of where the server listens, if that can be put into words. -/
def servingEntry (w : WebSettings) : Except Failure Log.Entry := do
  if w.host.isTooLong then throw .numberTooLong
  let port ← portNumber w.port
  if Value.isTooLongInt port then throw .numberTooLong
  return .serving w.host.plain port

/-- The server is started, after the report of where it listens. -/
def serve (w : WebSettings) : Run Answer := do
  Session.take ((← get).logging.report (servingEntry w))
  return { code := 0, served := some (w.host, w.port) }

/-! ## The command -/

/-- Where the settings are. -/
def settingsPath (files : Files) (a : Arguments) : Path :=
  match a.config with
  | none => Settings.defaultPath files
  | some [] => Settings.defaultPath files
  | some name => Path.parse name

/-- The file that the settings take the source from, if they name one. -/
def sourceFile? (files : Files) (a : Arguments) : Option Path := do
  let settings ← (Settings.load files (settingsPath files a)).2.toOption
  let name ← settings.snippets.sourceFile.text?
  (SnippetSettings.sourcePath files name).toOption

/-- The command does what its arguments ask for. -/
def execute (a : Arguments) (stdin : Text) : Run Answer := do
  let files := (← get).files
  let settings ← Session.take (Settings.load files (settingsPath files a))
  Session.start settings
  Session.setup
  if a.listSnippets then return { code := 0, output := listing (← get).table }
  else if a.lost.contains .expand then throw .lostArgument
  else match a.expand with
    | some name => expand a name stdin
    | none =>
      if a.serve then serve settings.web
      else
        Session.note [.nothingToDo]
        return { code := 0 }

/-- What the command says about its use. -/
def usage : Text :=
  "usage: ".toList ++ programName ++
    " [-h] [-v] [--version] [--config CONFIG] [--list-snippets] [--expand FILE] [--cursor CURSOR]".toList ++
      " [--key KEY] [--serve]\n".toList

/-- The command. -/
def run (arguments : List Text) (stdin : Text) : Run Answer :=
  match parse arguments with
  | .ok a => execute a stdin
  | .error .help => return { code := 0, output := usage }
  | .error .version => return { code := 0, output := programName ++ ' ' :: version ++ ['\n'] }
  | .error (.rejected f) => return { code := 2, rejection := some f.report }

end Shorthand.CommandLine
