import Shorthand.Trigger.Channel

set_option autoImplicit false
set_option relaxedAutoImplicit false

/-!
# Settings

Three sections of named fields: where the snippets come from, which keys expand them, and where the
server listens. A field takes any value, and what it means is found out when it is used. A section
also keeps values for names that are no fields of its own.

## Main definitions

* `Shorthand.Settings` — the three sections.
* `Shorthand.Settings.fields` — the fields of a section, in order.
* `Shorthand.Settings.assign` — a value for a name.
* `Shorthand.Settings.put` — the same, but for the names that a section needs for itself.
* `Shorthand.Settings.override` — the defaults with values for some names.
* `Shorthand.Settings.shown` — the fields of all sections, as they are shown and written.

## Main results

* `Shorthand.Settings.fields_assign_of_ne` — an assignment concerns no other section.
-/

namespace Shorthand

/-- The sections of the settings. -/
inductive Area where
  | snippets
  | triggers
  | web
  deriving DecidableEq, Repr

namespace Area

/-- The sections, in order. -/
def all : List Area := [.snippets, .triggers, .web]

/-- The name of a section. -/
def name : Area → Text
  | .snippets => "snippets".toList
  | .triggers => "triggers".toList
  | .web => "web".toList

/-- The section of a name. -/
def ofName? (name : Text) : Option Area := all.find? fun a => a.name == name

end Area

/-- The source that the program starts with. -/
def defaultSource : Text :=
  "asd |+| snipped ya\n-==-\n- |+| #####\n-==-\n: |+| -\n-==-\n:: |+| hi\n".toList

/-- Where the snippets come from. -/
structure SnippetSettings where
  /-- The snippet source. -/
  source : Value := .text defaultSource
  /-- The file that has the source instead. -/
  sourceFile : Value := .null
  /-- What stands between records. -/
  recordDivider : Value := .text "-==-".toList
  /-- What stands between a trigger and its expansion. -/
  partDivider : Value := .text " |+| ".toList
  /-- Whether a trigger may start before the line of the cursor. -/
  multiline : Value := .bool true
  /-- Values for other names. -/
  other : Entries Value := []

/-- Which keys expand triggers. -/
structure TriggerSettings where
  space : Value := .text Mode.enabled.name
  tab : Value := .text Mode.enabled.name
  enter : Value := .text Mode.disabled.name
  /-- Values for other names. -/
  other : Entries Value := []

/-- Where the server listens. -/
structure WebSettings where
  host : Value := .text "127.0.0.1".toList
  port : Value := .int 7866
  /-- Values for other names. -/
  other : Entries Value := []

namespace SnippetSettings

/-- The fields, in order. -/
def fields (s : SnippetSettings) : Entries Value :=
  [("source".toList, s.source), ("source_file".toList, s.sourceFile),
    ("snippet_divider".toList, s.recordDivider), ("part_divider".toList, s.partDivider),
    ("multiline_lhs".toList, s.multiline)]

/-- A value for a name. -/
def assign (s : SnippetSettings) (key : Text) (v : Value) : SnippetSettings :=
  if key = "source".toList then { s with source := v }
  else if key = "source_file".toList then { s with sourceFile := v }
  else if key = "snippet_divider".toList then { s with recordDivider := v }
  else if key = "part_divider".toList then { s with partDivider := v }
  else if key = "multiline_lhs".toList then { s with multiline := v }
  else { s with other := Entries.insert s.other key v }

/-- The settings with a source and fields by their names. There are none when a name is no field,
or is that of the source. -/
def ofFields? (source : Value) (entries : Entries Value) : Option SnippetSettings :=
  if entries.all fun (k, _) => Entries.has (fields {}) k && k != "source".toList then
    some (entries.foldl (fun s (k, v) => s.assign k v) { source })
  else none

end SnippetSettings

namespace TriggerSettings

/-- The fields, in order. -/
def fields (s : TriggerSettings) : Entries Value :=
  [("space".toList, s.space), ("tab".toList, s.tab), ("enter".toList, s.enter)]

/-- A value for a name. -/
def assign (s : TriggerSettings) (key : Text) (v : Value) : TriggerSettings :=
  if key = "space".toList then { s with space := v }
  else if key = "tab".toList then { s with tab := v }
  else if key = "enter".toList then { s with enter := v }
  else { s with other := Entries.insert s.other key v }

/-- The setting of a key. -/
def ofKey (s : TriggerSettings) : Key → Value
  | .space => s.space
  | .tab => s.tab
  | .enter => s.enter

/-- The settings that name their fields. There are none when a name is no field. -/
def ofFields? (entries : Entries Value) : Option TriggerSettings :=
  if entries.all fun (k, _) => Entries.has (fields {}) k then
    some (entries.foldl (fun s (k, v) => s.assign k v) {})
  else none

end TriggerSettings

namespace WebSettings

/-- The fields, in order. -/
def fields (s : WebSettings) : Entries Value :=
  [("host".toList, s.host), ("port".toList, s.port)]

/-- A value for a name. -/
def assign (s : WebSettings) (key : Text) (v : Value) : WebSettings :=
  if key = "host".toList then { s with host := v }
  else if key = "port".toList then { s with port := v }
  else { s with other := Entries.insert s.other key v }

end WebSettings

/-- The settings. -/
structure Settings where
  snippets : SnippetSettings := {}
  triggers : TriggerSettings := {}
  web : WebSettings := {}

namespace Settings

/-- The fields of a section, in order. -/
def fields (s : Settings) : Area → Entries Value
  | .snippets => s.snippets.fields
  | .triggers => s.triggers.fields
  | .web => s.web.fields

/-- The values of a section for names that are no fields. -/
def other (s : Settings) : Area → Entries Value
  | .snippets => s.snippets.other
  | .triggers => s.triggers.other
  | .web => s.web.other

/-- A value for a name in a section. -/
def assign (s : Settings) (a : Area) (key : Text) (v : Value) : Settings :=
  match a with
  | .snippets => { s with snippets := s.snippets.assign key v }
  | .triggers => { s with triggers := s.triggers.assign key v }
  | .web => { s with web := s.web.assign key v }

/-- Values for names in a section, one after the other. -/
def assignAll (s : Settings) (a : Area) (entries : Entries Value) : Settings :=
  entries.foldl (fun s (k, v) => s.assign a k v) s

/-- The settings with the defaults in a section. -/
def resetSection (s : Settings) : Area → Settings
  | .snippets => { s with snippets := {} }
  | .triggers => { s with triggers := {} }
  | .web => { s with web := {} }

/-- **An assignment concerns no other section.** -/
theorem fields_assign_of_ne {a b : Area} (h : a ≠ b) (s : Settings) (key : Text) (v : Value) :
    (s.assign a key v).fields b = s.fields b := by
  cases a <;> cases b <;> first | exact absurd rfl h | rfl

/-! ## Names that a section needs for itself -/

/-- The name of the entries of a section as one table. -/
def entriesName : Text := "__dict__".toList

/-- The name of the kind of a section. -/
def kindName : Text := "__class__".toList

/-- The name of the references to a section. -/
def referencesName : Text := "__weakref__".toList

/-- The name of the list of fields of a section. -/
def fieldListName : Text := "__dataclass_fields__".toList

/-- A value is put under a name of a section. Any name takes any value, but the entries of a
section are replaced by a table as a whole, its kind stays what it is, and the references to it
cannot be set. -/
def put (s : Settings) (a : Area) (key : Text) (v : Value) : Except Failure Settings :=
  if key = entriesName then
    match v with
    | .table entries => .ok ((s.resetSection a).assignAll a entries)
    | _ => .error .entriesNotTable
  else if key = kindName then .error .kindFixed
  else if key = referencesName then .error .referencesFixed
  else .ok (s.assign a key v)

/-- Values are put under names of a section, one after the other. -/
def putAll (s : Settings) (a : Area) : Entries Value → Except Failure Settings
  | [] => .ok s
  | (key, v) :: rest => do (← s.put a key v).putAll a rest

/-- Settings with values put under names of some sections. A section that there is not takes
none. -/
def overrideAll (s : Settings) : Entries Value → Except Failure Settings
  | [] => .ok s
  | (name, entries) :: rest =>
    match Area.ofName? name, entries with
    | some a, .table entries => do (← s.putAll a entries).overrideAll rest
    | none, .table [] => s.overrideAll rest
    | _, _ => .error .noSuchSection

/-- The defaults with values put under names of some sections. -/
def override (overrides : Entries Value) : Except Failure Settings :=
  ({} : Settings).overrideAll overrides

/-! ## Settings as they are shown -/

/-- The fields of a section that are shown: none when the list of fields was replaced by an empty
table. -/
def shownFields (s : Settings) (a : Area) : Except Failure (Entries Value) :=
  match Entries.find? (s.other a) fieldListName with
  | none => .ok (s.fields a)
  | some (.table []) => .ok []
  | some _ => .error .fieldsReplaced

/-- The fields of all sections that are shown. -/
def shown (s : Settings) : Except Failure (Entries Value) :=
  Area.all.mapM fun a => (s.shownFields a).map fun es => (a.name, .table es)

/-- All that is shown has the same value. -/
def agrees (s t : Settings) : Bool :=
  match s.shown, t.shown with
  | .ok es, .ok fs => Value.agrees false (.table es) (.table fs)
  | _, _ => false

end Settings

end Shorthand
