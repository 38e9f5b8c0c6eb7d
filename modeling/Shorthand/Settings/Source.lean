import Shorthand.Settings.Basic
import Shorthand.Source

set_option autoImplicit false
set_option relaxedAutoImplicit false

/-!
# Where the source comes from

The source is the text of a file, if the settings name one, and the text in the settings
otherwise, or when the file cannot be read. A file that can be read but is no text is a failure.

## Main definitions

* `Shorthand.SnippetSettings.readSource` — the source, with what is reported on the way.
* `Shorthand.SnippetSettings.tableKey` — everything that a table depends on.
-/

namespace Shorthand

/-- Everything that a table of snippets depends on. -/
structure TableKey where
  source : Value
  between : Value
  parts : Value

namespace TableKey

/-- The values of a key, in order. -/
def toList (k : TableKey) : List Value := [k.source, k.between, k.parts]

/-- Two keys are equal; a value is always equal to itself. -/
def agrees (k l : TableKey) : Bool := Value.itemsAgree true k.toList l.toList

end TableKey

namespace SnippetSettings

/-- The name under which the settings of the snippets can shadow the reading of the source. -/
def sourceReaderName : Text := "read_source".toList

/-- The name under which the settings of the snippets can shadow the key of the table. -/
def tableKeyName : Text := "table_key".toList

/-- Where the source file is. -/
def sourcePath (files : Files) (name : Text) : Except Failure Path :=
  let p := Path.parse name
  match p.expandHome files.home? with
  | none =>
    if (p.parts.headD []).contains '\x00' then .error .nulInFileName else .error .unknownHome
  | some p => if p.toText.contains '\x00' then .error .nulInFileName else .ok p

/-- The source in a file, or the one given when the file cannot be read. -/
def readFile (files : Files) (p : Path) (inline : Value) : Log × Except Failure Value :=
  match files.read p with
  | .error _ => ([.sourceFileFailed p.toText], .ok inline)
  | .ok bytes =>
    match Text.decode? bytes with
    | none => ([], .error .fileNotText)
    | some s => ([], .ok (.text (Text.unifyNewlines s)))

/-- The source. -/
def readSource (files : Files) (s : SnippetSettings) : Log × Except Failure Value :=
  if Entries.has s.other sourceReaderName then ([], .error .sourceReaderReplaced)
  else if !s.sourceFile.isTrue then ([], .ok s.source)
  else match s.sourceFile with
    | .text name =>
      match sourcePath files name with
      | .error f => ([], .error f)
      | .ok p => readFile files p s.source
    | _ => ([], .error .fileNameNotText)

/-- The key of the table that the settings give. -/
def tableKey (files : Files) (s : SnippetSettings) : Log × Except Failure TableKey :=
  if Entries.has s.other tableKeyName then ([], .error .tableKeyReplaced)
  else
    let (log, source) := s.readSource files
    (log, source.map fun source => ⟨source, s.recordDivider, s.partDivider⟩)

/-- The reading of the source, and what is reported on the way. -/
def read (files : Files) (s : SnippetSettings) : Log × Except Failure Source.Reading :=
  match s.readSource files with
  | (log, .error f) => (log, .error f)
  | (log, .ok source) =>
    let (more, reading) := Source.parseValues source s.recordDivider s.partDivider
    (log ++ more, reading)

end SnippetSettings

end Shorthand
