import Mathlib.Tactic.Lemma
import Shorthand.Proofs.Files.Store
import Shorthand.Proofs.Text.Utf8
import Shorthand.Proofs.Toml.Document
import Shorthand.Proofs.Toml.Piecewise
import Shorthand.Settings.Store

set_option autoImplicit false
set_option relaxedAutoImplicit false

/-!
# Settings that were saved are loaded again

Settings whose fields are of the kind that they are meant to be are the same after they were saved
and loaded. This takes all parts of the way there and back: the source file that is null is left
out and comes back as the default, which is null; the text of the file is read back as it was
written, whatever characters are in the texts; its bytes are read back as that text; and the file,
once it can be opened, can be written and is found again.

The port has to be a number of no more digits than can be shown. With more digits the settings are
not saved, though they may have been loaded: such a number can be read in hexadecimal digits. What
the file held before is lost all the same, for the settings are written up to the port.

## Main definitions

* `Shorthand.Settings.Proper` — settings whose fields are of the kind that they are meant to be.

## Main results

* `Shorthand.Settings.Proper.save_of_opened` — what is written of settings.
* `Shorthand.Settings.Proper.merge_eq` — the settings of what is written.
* `Shorthand.Settings.load_save` — settings that were saved are loaded again.
* `Shorthand.Settings.exists_save_eq_error` — settings with a port of more digits are not saved.
-/

namespace Shorthand.Settings

/-- Settings whose fields are of the kind that they are meant to be. -/
structure Proper where
  source : Text
  sourceFile : Option Text
  recordDivider : Text
  partDivider : Text
  multiline : Bool
  space : Text
  tab : Text
  enter : Text
  host : Text
  port : Int

namespace Proper

variable (s : Proper)

/-- The settings with these fields. -/
def settings : Settings where
  snippets :=
    { source := .text s.source
      sourceFile := s.sourceFile.elim .null .text
      recordDivider := .text s.recordDivider
      partDivider := .text s.partDivider
      multiline := .bool s.multiline }
  triggers := { space := .text s.space, tab := .text s.tab, enter := .text s.enter }
  web := { host := .text s.host, port := .int s.port }

/-- The defaults, which are of these kinds. -/
def initial : Proper where
  source := defaultSource
  sourceFile := none
  recordDivider := "-==-".toList
  partDivider := " |+| ".toList
  multiline := true
  space := Mode.enabled.name
  tab := Mode.enabled.name
  enter := Mode.disabled.name
  host := "127.0.0.1".toList
  port := 7866

/-- The snippets section as it is written: a source file only if there is one. -/
def snippetEntries : Entries Value :=
  ("source".toList, .text s.source) ::
    (s.sourceFile.map fun name => ("source_file".toList, .text name)).toList ++
    [("snippet_divider".toList, .text s.recordDivider),
      ("part_divider".toList, .text s.partDivider), ("multiline_lhs".toList, .bool s.multiline)]

/-- The sections as they are written. -/
def sections : Entries (Entries Value) :=
  [(Area.snippets.name, s.snippetEntries), (Area.triggers.name, s.settings.triggers.fields),
    (Area.web.name, s.settings.web.fields)]

variable {s}

/-- The sections are such as can be read back. -/
lemma sections_readable (h : s.port.natAbs < Nat.pow 10 Text.maxDigits) :
    Toml.Sections s.sections := by
  have hsnippets : Toml.Flat s.snippetEntries := by
    cases hname : s.sourceFile with
    | none =>
      refine .of_names
        (["source", "snippet_divider", "part_divider", "multiline_lhs"].map String.toList)
        ?_ (by decide) ?_
      · simp [snippetEntries, hname, Entries.keys]
      · simp [snippetEntries, hname, Toml.Simple.text, Toml.Simple.bool]
    | some name =>
      refine .of_names
        (["source", "source_file", "snippet_divider", "part_divider", "multiline_lhs"].map
          String.toList)
        ?_ (by decide) ?_
      · simp [snippetEntries, hname, Entries.keys]
      · simp [snippetEntries, hname, Toml.Simple.text, Toml.Simple.bool]
  have htriggers : Toml.Flat s.settings.triggers.fields :=
    .of_names (["space", "tab", "enter"].map String.toList) rfl (by decide)
      (by simp [TriggerSettings.fields, settings, Toml.Simple.text])
  have hweb : Toml.Flat s.settings.web.fields :=
    .of_names (["host", "port"].map String.toList) rfl (by decide)
      (by simp [WebSettings.fields, settings, Toml.Simple.text, Toml.Simple.int _ h])
  have hnames : (∀ k ∈ Area.all.map Area.name, Toml.Bare k) ∧ (Area.all.map Area.name).Nodup := by
    decide
  exact
    { bare := fun e he => hnames.1 e.1 (List.mem_map_of_mem he)
      flat := by simp [sections, hsnippets, htriggers, hweb]
      nodup := hnames.2 }

/-- Of all fields only the port can have too many digits. -/
lemma entriesAreTooLong_sections :
    Value.entriesAreTooLong (Toml.tables s.sections) = Value.isTooLongInt s.port := by
  obtain ⟨source, _ | name, between, parts, multiline, space, tab, enter, host, port⟩ := s <;>
    simp [Toml.tables, sections, snippetEntries, settings, TriggerSettings.fields,
      WebSettings.fields, Value.entriesAreTooLong, Value.isTooLong]

/-- The sections are what is shown of settings, without a null. -/
lemma entriesWithoutNulls_fields :
    Value.entriesWithoutNulls (Area.all.map fun a => (a.name, .table (s.settings.fields a))) =
      Toml.tables s.sections := by
  obtain ⟨source, _ | name, between, parts, multiline, space, tab, enter, host, port⟩ := s <;> rfl

/-- **What is written of settings** where the file could be opened: their sections, or the start of
them. -/
theorem save_of_opened {files opened : Files} {p : Path}
    (hopened : files.store p (.file []) = (opened, none)) :
    save files p s.settings =
      (if (Toml.writeUntil (Toml.tables s.sections)).2 then ([.settingsSaved p.toText], .ok ())
        else ([], .error .numberTooLong),
      (opened.store p (.file (Text.encode (Toml.writeUntil (Toml.tables s.sections)).1))).1) := by
  have hshown : s.settings.shown =
      .ok (Area.all.map fun a => (a.name, .table (s.settings.fields a))) := rfl
  simp only [save, hopened, hshown, entriesWithoutNulls_fields]

/-- **The settings of sections** are those that the sections were made from, and no name is
unknown. -/
theorem merge_eq : merge (Toml.tables s.sections) = ([], some s.settings) := by
  obtain ⟨source, _ | name, between, parts, multiline, space, tab, enter, host, port⟩ := s <;> rfl

end Proper

/-- The settings of a file that has the bytes of settings. -/
lemma load_of_read {files : Files} {p : Path} {s : Proper}
    (hport : s.port.natAbs < Nat.pow 10 Text.maxDigits) (hnul : '\x00' ∉ p.toText)
    (hexists : files.exists? p = .ok true)
    (hread : files.read p = .ok (Text.encode (Toml.write (Toml.tables s.sections)))) :
    load files p = ([.settingsLoaded p.toText], .ok s.settings) := by
  have hentries : readEntries files p = some (Toml.tables s.sections) := by
    rw [readEntries, hread]
    simp [Except.toOption, Text.decode?_encode, Toml.read_write (Proper.sections_readable hport)]
  rw [load, if_neg (by simpa using hnul), hexists]
  simp [loadExisting, hentries, Proper.merge_eq]

/-- **Settings that were saved are loaded again.** Where a file can be opened, settings whose port
has no more digits than can be shown are saved, and loading the file gives the same settings.

**Proof sketch.** The file is opened before the text is made, so that it is stored twice; what
could be stored once can be stored again and is read back (`Files.store_file_again`). Its bytes
are those of the text of the settings, which is read back as their sections. -/
theorem load_save (files : Files) (p : Path) (s : Proper)
    (hport : s.port.natAbs < Nat.pow 10 Text.maxDigits) (hnul : '\x00' ∉ p.toText)
    (hopen : (files.store p (.file [])).2 = none) :
    ∃ after, save files p s.settings = (([.settingsSaved p.toText], .ok ()), after) ∧
      load after p = ([.settingsLoaded p.toText], .ok s.settings) := by
  obtain ⟨opened, hopened⟩ : ∃ opened, files.store p (.file []) = (opened, none) :=
    ⟨_, Prod.ext rfl hopen⟩
  obtain ⟨after, hstore, hexists, hread⟩ :=
    Files.store_file_again hopened (Text.encode (Toml.write (Toml.tables s.sections)))
  have hfits : Value.isTooLongInt s.port = false := by
    simpa only [Value.isTooLongInt, decide_eq_false_iff_not, Nat.not_le] using hport
  have hwhole : Toml.writeUntil (Toml.tables s.sections) =
      (Toml.write (Toml.tables s.sections), true) :=
    Toml.writeUntil_eq (Proper.entriesAreTooLong_sections.trans hfits)
  refine ⟨after, ?_, load_of_read hport hnul hexists hread⟩
  rw [Proper.save_of_opened hopened, hwhole, hstore]
  rfl

/-- Settings with quotes, backslashes, line ends and control characters in them. -/
def Proper.escapes : Proper :=
  { Proper.initial with
    source := "a |+| \"b\"\\n\r\n\x7f".toList, recordDivider := "\n".toList,
    partDivider := "\t".toList
    space := [], enter := "\x00".toList, port := -1 }

/-- They are loaded again after they were saved. -/
theorem load_save_escapes :
    ∃ after, save {} (defaultPath {}) Proper.escapes.settings =
        (([.settingsSaved (defaultPath {}).toText], .ok ()), after) ∧
      load after (defaultPath {}) =
        ([.settingsLoaded (defaultPath {}).toText], .ok Proper.escapes.settings) :=
  load_save {} (defaultPath {}) Proper.escapes (by decide +kernel) (by decide) (by decide +kernel)

/-- **Settings with a port of too many digits are not saved,** even where the file can be opened.
The file is left with the start of what was to be written. -/
theorem exists_save_eq_error (files : Files) (p : Path) (s : Proper)
    (hport : Nat.pow 10 Text.maxDigits ≤ s.port.natAbs)
    (hopen : (files.store p (.file [])).2 = none) :
    ∃ after written, save files p s.settings = (([], .error .numberTooLong), after) ∧
      after.read p = .ok (Text.encode written) ∧
      written <+: Toml.write (Toml.tables s.sections) := by
  obtain ⟨opened, hopened⟩ : ∃ opened, files.store p (.file []) = (opened, none) :=
    ⟨_, Prod.ext rfl hopen⟩
  obtain ⟨after, hstore, -, hread⟩ := Files.store_file_again hopened
    (Text.encode (Toml.writeUntil (Toml.tables s.sections)).1)
  have htooLong : Value.isTooLongInt s.port = true := decide_eq_true hport
  have hpart : (Toml.writeUntil (Toml.tables s.sections)).2 = false := by
    rw [Toml.writeUntil_snd, Proper.entriesAreTooLong_sections, htooLong, Bool.not_true]
  refine ⟨after, _, ?_, hread, Toml.writeUntil_isPrefix _⟩
  rw [Proper.save_of_opened hopened, hpart, hstore]
  rfl

/-- Not all settings are loaded again after they were saved: there is a least number with too many
digits, and settings with that port are not saved. -/
theorem not_forall_load_save :
    ¬ ∀ (files : Files) (p : Path) (s : Proper), '\x00' ∉ p.toText →
      (files.store p (.file [])).2 = none →
      ∃ log after, save files p s.settings = ((log, .ok ()), after) ∧
        (load after p).2 = .ok s.settings := by
  intro h
  let s : Proper := { Proper.initial with port := (Nat.pow 10 Text.maxDigits : Nat) }
  have hopen : (Files.store {} (defaultPath {}) (.file [])).2 = none := by decide +kernel
  obtain ⟨log, after, hsave, -⟩ := h {} (defaultPath {}) s (by decide) hopen
  obtain ⟨_, _, herror, -⟩ := exists_save_eq_error {} (defaultPath {}) s
    (Nat.le_of_eq (Int.natAbs_natCast _).symm) hopen
  exact absurd (hsave.symm.trans herror) (by simp)

end Shorthand.Settings
