import Shorthand.Settings.Source
import Shorthand.Toml.Piecewise
import Shorthand.Toml.Read

set_option autoImplicit false
set_option relaxedAutoImplicit false

/-!
# The settings file

Settings are kept in a TOML file with a table for each section. A file is taken as a whole: when it
cannot be read, or one of its entries is refused, all settings are the defaults.

## Main definitions

* `Shorthand.Settings.merge` — the entries of a file over the defaults.
* `Shorthand.Settings.load` — the settings of a file.
* `Shorthand.Settings.save` — the file of settings.
-/

namespace Shorthand.Settings

/-! ## Reading -/

/-- Names that every section answers to without being fields of it. Values for them are kept and
mean nothing. -/
def innerNames : List Text :=
  ["annotations", "dataclass_fields", "dataclass_params", "delattr", "dir", "doc", "eq", "format",
    "ge", "getattribute", "getstate", "gt", "hash", "init", "init_subclass", "le", "lt",
    "match_args", "module", "ne", "new", "reduce", "reduce_ex", "repr", "setattr", "sizeof", "str",
    "subclasshook"].map fun n => "__".toList ++ n.toList ++ "__".toList

/-- Whether a section answers to a name. -/
def answers (s : Settings) (a : Area) (key : Text) : Bool :=
  Entries.has (s.fields a) key || Entries.has (s.other a) key || innerNames.contains key ||
    key == entriesName || key == kindName || key == referencesName ||
    (a == .snippets &&
      (key == SnippetSettings.sourceReaderName || key == SnippetSettings.tableKeyName))

/-- The entries of a section are taken over, up to one that cannot be put there. -/
def mergeSection (a : Area) : Settings → Entries Value → Log × Option Settings
  | s, [] => ([], some s)
  | s, (key, v) :: rest =>
    if s.answers a key then
      match s.put a key v with
      | .ok s => mergeSection a s rest
      | .error _ => ([], none)
    else
      let (log, result) := mergeSection a s rest
      (.unknownKey a.name key :: log, result)

/-- The sections of a file are taken over, in their order. What is no table says nothing. -/
def mergeAreas (file : Entries Value) : List Area → Settings → Log × Option Settings
  | [], s => ([], some s)
  | a :: rest, s =>
    match Entries.find? file a.name with
    | some (.table entries) =>
      match mergeSection a s entries with
      | (log, none) => (log, none)
      | (log, some s) =>
        let (more, result) := mergeAreas file rest s
        (log ++ more, result)
    | _ => mergeAreas file rest s

/-- The entries of a file over the defaults. -/
def merge (file : Entries Value) : Log × Option Settings := mergeAreas file Area.all {}

/-- The entries of a file that can be read. -/
def readEntries (files : Files) (p : Path) : Option (Entries Value) := do
  let bytes ← (files.read p).toOption
  let s ← Text.decode? bytes
  Toml.read s

/-- The settings of a file that exists. -/
def loadExisting (files : Files) (p : Path) : Log × Settings :=
  match readEntries files p with
  | none => ([.settingsFailed p.toText], {})
  | some file =>
    match merge file with
    | (log, some s) => (log ++ [.settingsLoaded p.toText], s)
    | (log, none) => (log ++ [.settingsFailed p.toText], {})

/-- The settings of a file; the defaults when there is none. -/
def load (files : Files) (p : Path) : Log × Except Failure Settings :=
  if p.toText.contains '\x00' then ([.noSettingsFile p.toText], .ok {})
  else match files.exists? p with
    | .error f => ([], .error (.file f))
    | .ok false => ([.noSettingsFile p.toText], .ok {})
    | .ok true =>
      let (log, s) := loadExisting files p
      (log, .ok s)

/-- The settings file of a user. -/
def defaultPath (files : Files) : Path :=
  files.configHome.append { parts := ["jelly-snippets".toList, "config.toml".toList] }

/-! ## Writing -/

/-- The settings are written to a file, whose directory is made when it is missing. There is no null
in a file: such fields are left out. The file is opened first, and what it held is lost even if
nothing can be written; if a number has too many digits, the file ends before it. -/
def save (files : Files) (p : Path) (s : Settings) : (Log × Except Failure Unit) × Files :=
  match files.store p (.file []) with
  | (files, some fault) => (([], .error (.file fault)), files)
  | (files, none) =>
    match s.shown with
    | .error f => (([], .error f), files)
    | .ok fields =>
      let (text, isWhole) := Toml.writeUntil (Value.entriesWithoutNulls fields)
      (if isWhole then ([.settingsSaved p.toText], .ok ()) else ([], .error .numberTooLong),
        (files.store p (.file (Text.encode text))).1)

end Shorthand.Settings
