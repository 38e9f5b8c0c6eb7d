import Shorthand.Diagnostic
import Shorthand.Failure
import Shorthand.Value.Literal

set_option autoImplicit false
set_option relaxedAutoImplicit false

/-!
# The log

Every part of the program reports what it does to a log, which keeps the order. An entry is what
happened; its level, the part that reports it and its words follow from that.

The log is not ours. Some entries cannot be put into words, and what becomes of them depends on the
log: the usual ones drop such an entry and let the program go on, but there are others that let the
failure through to whoever reports.

## Main definitions

* `Shorthand.Log.Entry` — what can be reported.
* `Shorthand.Log.Entry.level`, `Shorthand.Log.Entry.source`, `Shorthand.Log.Entry.message` — how an
  entry is shown.
* `Shorthand.Log.Handling`, `Shorthand.Log.Handling.report` — what becomes of an entry.
-/

namespace Shorthand

namespace Log

/-- How much an entry matters. -/
inductive Level where
  | debug
  | info
  | warning
  | error
  deriving DecidableEq, Repr

/-- The name of a level. -/
def Level.name : Level → Text
  | .debug => "DEBUG".toList
  | .info => "INFO".toList
  | .warning => "WARNING".toList
  | .error => "ERROR".toList

/-- What can be reported. -/
inductive Entry where
  /-- A written expansion has several places for the cursor. -/
  | manyCursors (raw : Text) (count : Nat)
  /-- A record defines a trigger that was defined before. -/
  | redefined (trigger : Text) (index : Nat)
  /-- A record defines nothing. -/
  | malformed (diagnostic : Diagnostic)
  /-- A source was read. -/
  | parsed (snippets rejected : Nat)
  /-- A table came into use. -/
  | loaded (snippets generation : Nat)
  /-- A trigger was replaced. -/
  | expanded (trigger : Text) (start : Int)
  /-- A mode is not known. -/
  | unknownMode (value : Value)
  /-- A channel failed. -/
  | channelFailed (key : Text)
  /-- A key does nothing by itself. -/
  | noDefaultAction (key : Value)
  /-- A handler was subscribed to an event. -/
  | subscribed (handler event : Text)
  /-- An event was emitted. -/
  | emitting (event : Text) (handlers : Nat)
  /-- A handler failed. -/
  | handlerFailed (handler event : Text)
  /-- There is no settings file. -/
  | noSettingsFile (path : Text)
  /-- A settings file was read. -/
  | settingsLoaded (path : Text)
  /-- A settings file could not be read. -/
  | settingsFailed (path : Text)
  /-- A section has no such key. -/
  | unknownKey (area key : Text)
  /-- The source file could not be read. -/
  | sourceFileFailed (path : Text)
  /-- The settings were written. -/
  | settingsSaved (path : Text)
  /-- The application starts. -/
  | settingUp
  /-- The explicit command found no trigger. -/
  | nothingAtCursor
  /-- The server starts. -/
  | serving (host : Text) (port : Int)
  /-- The command line expanded a trigger, or found none. -/
  | outcome (trigger : Option Text) (cursor : Nat)
  /-- The command line could not read the file to expand. -/
  | cannotRead (name path : Text) (fault : FileFault)
  /-- The command line had nothing to do. -/
  | nothingToDo

end Log

/-- The log: entries in order. -/
abbrev Log := List Log.Entry

/-- What a log does with an entry that cannot be put into words. -/
inductive Log.Handling where
  /-- It drops the entry, and whoever reports it goes on. -/
  | lenient
  /-- It fails, and so does whoever reports it. -/
  | strict
  deriving DecidableEq, Repr

/-- What comes of reporting an entry, or of the failure to put it into words. -/
def Log.Handling.report : Log.Handling → Except Failure Log.Entry → Log × Except Failure Unit
  | _, .ok entry => ([entry], .ok ())
  | .lenient, .error _ => ([], .ok ())
  | .strict, .error f => ([], .error f)

namespace Log.Entry

/-- The level of an entry. -/
def level : Entry → Level
  | .malformed _ | .unknownMode _ | .unknownKey _ _ => .warning
  | .channelFailed _ | .handlerFailed _ _ | .settingsFailed _ | .sourceFileFailed _
  | .cannotRead _ _ _ => .error
  | .loaded _ _ | .noSettingsFile _ | .settingsLoaded _ | .settingsSaved _ | .settingUp
  | .serving _ _ | .outcome _ _ | .nothingToDo => .info
  | _ => .debug

/-- The part of the program that reports an entry. -/
def source : Entry → Text
  | .manyCursors _ _ => "jelly_snippets.snippets.symbols".toList
  | .redefined _ _ | .malformed _ | .parsed _ _ => "jelly_snippets.snippets.parser".toList
  | .loaded _ _ => "jelly_snippets.snippets.registry".toList
  | .expanded _ _ => "jelly_snippets.snippets.engine".toList
  | .unknownMode _ | .channelFailed _ => "jelly_snippets.dispatcher".toList
  | .noDefaultAction _ => "jelly_snippets.editor".toList
  | .subscribed _ _ | .emitting _ _ | .handlerFailed _ _ => "jelly_snippets.events".toList
  | .noSettingsFile _ | .settingsLoaded _ | .settingsFailed _ | .unknownKey _ _
  | .sourceFileFailed _ | .settingsSaved _ => "jelly_snippets.config".toList
  | .settingUp | .nothingAtCursor => "jelly_snippets.app".toList
  | .serving _ _ => "jelly_snippets.web.server".toList
  | .outcome _ _ | .cannotRead _ _ _ | .nothingToDo => "jelly_snippets".toList

/-- An entry in words. -/
def message : Entry → Text
  | .manyCursors raw count =>
    "Right-hand side ".toList ++ Text.quoted raw ++ " has ".toList ++ Text.ofNat count ++
      " cursor-end markers, using the last one".toList
  | .redefined trigger index =>
    "Snippet ".toList ++ Text.quoted trigger ++ " redefined by record ".toList ++ Text.ofNat index
  | .malformed d =>
    "Failed to register snippet record ".toList ++ Text.ofNat d.index ++ " (".toList ++
      d.reason.message ++ "): ".toList ++ Text.quoted d.record
  | .parsed snippets rejected =>
    "Parsed ".toList ++ Text.ofNat snippets ++ " snippet(s), ".toList ++ Text.ofNat rejected ++
      " malformed record(s)".toList
  | .loaded snippets generation =>
    "Loaded ".toList ++ Text.ofNat snippets ++ " snippet(s) (generation ".toList ++
      Text.ofNat generation ++ ")".toList
  | .expanded trigger start =>
    "Expanded ".toList ++ Text.quoted trigger ++ " at offset ".toList ++ Text.ofInt start
  | .unknownMode v =>
    "Unknown trigger mode ".toList ++ v.literal ++ ", treating as disabled".toList
  | .channelFailed key => "Snippet trigger on ".toList ++ key ++ " failed".toList
  | .noDefaultAction key => "No default action for key ".toList ++ key.literal
  | .subscribed handler event =>
    "Registered handler ".toList ++ handler ++ " for event '".toList ++ event ++ "'".toList
  | .emitting event handlers =>
    "Emitting event '".toList ++ event ++ "' to ".toList ++ Text.ofNat handlers ++
      " handler(s)".toList
  | .handlerFailed handler event =>
    "Error in handler ".toList ++ handler ++ " for event '".toList ++ event ++ "'".toList
  | .noSettingsFile path =>
    "No config file found at ".toList ++ path ++ ", using defaults".toList
  | .settingsLoaded path => "Loaded config from ".toList ++ path
  | .settingsFailed path =>
    "Failed to load config from ".toList ++ path ++ ", using defaults".toList
  | .unknownKey area key => "Ignoring unknown config key ".toList ++ area ++ '.' :: key
  | .sourceFileFailed path =>
    "Failed to read snippet file ".toList ++ path ++ ", using inline source".toList
  | .settingsSaved path => "Saved config to ".toList ++ path
  | .settingUp => "Setting up Jelly Snippets...".toList
  | .nothingAtCursor => "No snippet ends at the cursor".toList
  | .serving host port =>
    "Starting Jelly Snippets API on http://".toList ++ host ++ ':' :: Text.ofInt port
  | .outcome trigger cursor =>
    (match trigger with
      | some t => "Expanded ".toList ++ Text.quoted t
      | none => "No snippet matched".toList) ++ "; cursor at ".toList ++ Text.ofNat cursor
  | .cannotRead name path fault =>
    "Cannot read ".toList ++ name ++ ": [Errno ".toList ++ Text.ofNat fault.number ++ "] ".toList ++
      fault.message ++ ": ".toList ++ Text.quoted path
  | .nothingToDo => "Nothing to do; see --help".toList

end Log.Entry

end Shorthand
