import Shorthand.Proofs.Settings.Key
import Shorthand.Proofs.Source.Meaning
import Shorthand.Proofs.Text.Lines
import Shorthand.Proofs.Text.Trim
import Shorthand.Proofs.Text.Utf8
import Shorthand.Table

set_option autoImplicit false
set_option relaxedAutoImplicit false

/-!
# Line ends

A source that stands in a file is read with its line ends made alike; one that stands in the
settings is taken as it is. When records are lines the two give the same all the same, if carriage
returns stand only before line breaks: then both texts have the same lines but for a carriage
return at their ends, and that is trimmed off.

## Main definitions

* `Shorthand.Text.ReturnsPaired` — every carriage return stands directly before a line break.
* `Shorthand.SnippetSettings.HoldsSource` — the source is in the settings.
* `Shorthand.SnippetSettings.NamesSource` — the source is in a file that the settings name.

## Main results

* `Shorthand.Text.forall₂_lines_unifyNewlines` — lines when line ends are made alike.
* `Shorthand.Source.textReading_unifyNewlines` — a source whose records are lines says the same.
* `Shorthand.SnippetSettings.read_held_or_named` — so does the same source in the settings and in
  a file.
-/

namespace Shorthand

/-! ## Lines with and without carriage returns -/

namespace Text

variable {s t : Text}

/-- A text without carriage returns stays as it is. -/
lemma unifyNewlines_of_notMem (h : '\r' ∉ s) : unifyNewlines s = s := by
  fun_induction unifyNewlines s with
  | case1 rest ih => exact absurd List.mem_cons_self h
  | case2 c rest hpair ih =>
    have hc : c ≠ '\r' := fun hc => h (hc ▸ List.mem_cons_self)
    rw [ih fun hrest => h (List.mem_cons_of_mem c hrest), if_neg hc]
  | case3 => rfl

/-- Every carriage return stands directly before a line break. -/
def ReturnsPaired (s : Text) : Prop := ∀ i < s.length, s[i]? = some '\r' → s[i + 1]? = some '\n'

/-- A look at every place decides whether all carriage returns are paired. -/
instance decidableReturnsPaired (s : Text) : Decidable (ReturnsPaired s) :=
  inferInstanceAs (Decidable (∀ i < s.length, s[i]? = some '\r' → s[i + 1]? = some '\n'))

/-- So it is in the rest of the text. -/
lemma ReturnsPaired.tail {c : Char} (h : ReturnsPaired (c :: s)) : ReturnsPaired s :=
  fun i hi => h (i + 1) (Nat.succ_lt_succ hi)

/-- A text is another one, or that with a carriage return at its end. -/
def EndsAlike (s t : Text) : Prop := s = t ∨ s = t ++ ['\r']

/-- Texts that end alike do so behind one more character. -/
lemma EndsAlike.cons (c : Char) (h : EndsAlike s t) : EndsAlike (c :: s) (c :: t) := by
  rcases h with rfl | rfl
  · exact .inl rfl
  · exact .inr rfl

/-- Such texts are the same when they are trimmed. -/
lemma EndsAlike.trim_eq (h : EndsAlike s t) : trim s = trim t := by
  rcases h with rfl | rfl
  · rfl
  · obtain ⟨before, after, ht, hbefore, hafter⟩ := exists_padding isBlank t
    have hreturn : ∀ c ∈ after ++ ['\r'], isBlank c :=
      List.forall_mem_append.mpr ⟨hafter, List.forall_mem_singleton.mpr (by decide)⟩
    refine trimBoth_eq_iff.mpr ⟨bare_trimBoth isBlank t, before, after ++ ['\r'], ?_, hbefore,
      hreturn⟩
    rw [← List.append_assoc]
    exact congrArg (· ++ ['\r']) ht

/-- **The lines of a text are those that it has when line ends are made alike,** but for a
carriage return at the end of some.

**Proof sketch.** Induction along the making alike. A pair that becomes a line break has a line
with its carriage return alone before it; any other character is no carriage return and joins the
first line on both sides. -/
theorem forall₂_lines_unifyNewlines (h : ReturnsPaired s) :
    List.Forall₂ EndsAlike (lines s) (lines (unifyNewlines s)) := by
  fun_induction unifyNewlines s with
  | case1 rest ih =>
    rw [lines_cons_of_ne (by decide) (lines_break rest), lines_break]
    exact .cons (.inr rfl) (ih h.tail.tail)
  | case2 c rest hpair ih =>
    have hc : c ≠ '\r' := by
      rintro rfl
      have hnext : rest[0]? = some '\n' := h 0 (Nat.zero_lt_succ _) rfl
      cases rest with
      | nil => exact nomatch hnext
      | cons b rest => exact hpair rest rfl (congrArg (· :: rest) (Option.some.inj hnext))
    rw [if_neg hc]
    have hrest := ih h.tail
    by_cases hbreak : c = '\n'
    · rw [hbreak, lines_break, lines_break]
      exact .cons (.inl rfl) hrest
    · obtain ⟨line, others, hl⟩ := List.exists_cons_of_ne_nil (lines_ne_nil rest)
      obtain ⟨line', others', hl'⟩ := List.exists_cons_of_ne_nil (lines_ne_nil (unifyNewlines rest))
      rw [hl, hl'] at hrest
      rw [lines_cons_of_ne hbreak hl, lines_cons_of_ne hbreak hl']
      cases hrest with
      | cons hline hothers => exact .cons (hline.cons c) hothers
  | case3 => exact .cons (.inl rfl) .nil

/-- Trimmed, the lines are the same. -/
lemma map_trim_lines_unifyNewlines (h : ReturnsPaired s) :
    (lines (unifyNewlines s)).map trim = (lines s).map trim := by
  have halike := (forall₂_lines_unifyNewlines h).imp fun _ _ => EndsAlike.trim_eq
  exact (List.forall₂_eq_eq_eq ▸
    List.forall₂_map_left_iff.mpr (List.forall₂_map_right_iff.mpr halike)).symm

end Text

open Text

/-! ## Sources whose records are lines -/

namespace Source

variable {between parts text : Text}

/-- Records are a matter of the trimmed pieces. -/
lemma records_congr {pieces others : List Text} (h : pieces.map trim = others.map trim) :
    records pieces = records others := by
  have hrecords (pieces : List Text) : records pieces =
      ((pieces.map trim).zipIdx.map Prod.swap).filter fun x => !x.2.isEmpty := by
    rw [records, List.zipIdx_map, List.map_map]
    rfl
  rw [hrecords, hrecords, h]

/-- **A source whose records are lines says the same when its line ends are made alike,** if
carriage returns stand only before line breaks. -/
theorem textReading_unifyNewlines (hbetween : between = Divider.newlineMark ∨ between = ['\n'])
    (h : ReturnsPaired text) : textReading between parts (unifyNewlines text) =
      textReading between parts text := by
  rw [textReading, textReading, Divider.resolved_eq_break_iff.mpr hbetween, splitOn_break,
    splitOn_break, records_congr (map_trim_lines_unifyNewlines h)]

end Source

/-! ## Sources in settings and in files -/

namespace SnippetSettings

variable {s : SnippetSettings} {files : Files} {between parts text : Text}

/-- The settings have a source of their own, and name no file. -/
structure HoldsSource (s : SnippetSettings) (text : Text) : Prop where
  source : s.source = .text text
  sourceFile : s.sourceFile.isTrue = false

/-- The settings name a file that holds a text in UTF-8. -/
def NamesSource (s : SnippetSettings) (files : Files) (text : Text) : Prop :=
  ∃ name p, s.sourceFile = .text name ∧ name ≠ [] ∧ sourcePath files name = .ok p ∧
    files.read p = .ok (encode text)

/-- The settings have texts for dividers, and nothing in the place of what reads their source. -/
structure DividesBy (s : SnippetSettings) (between parts : Text) : Prop where
  recordDivider : s.recordDivider = .text between
  partDivider : s.partDivider = .text parts
  reads : Entries.has s.other sourceReaderName = false

/-- A source in the settings is taken as it is. -/
lemma DividesBy.readSource_held (hs : s.DividesBy between parts) (h : s.HoldsSource text)
    (files : Files) : (s.readSource files).2 = .ok (.text text) := by
  simp [readSource, hs.reads, h.sourceFile, h.source]

/-- A source in a file is read with its line ends made alike. -/
lemma DividesBy.readSource_named (hs : s.DividesBy between parts) (h : s.NamesSource files text) :
    (s.readSource files).2 = .ok (.text (unifyNewlines text)) := by
  obtain ⟨name, p, hname, hne, hpath, hread⟩ := h
  have htrue : (Value.text name).isTrue = true := by simpa [Value.isTrue] using hne
  simp [readSource, hs.reads, hname, htrue, hpath, readFile, hread, decode?_encode]

/-- What is read is the reading of the source. -/
lemma DividesBy.read_eq (hs : s.DividesBy between parts) (hb : between ≠ []) (hp : parts ≠ [])
    (hsource : (s.readSource files).2 = .ok (.text text)) :
    (s.read files).2 = .ok (Source.textReading between parts text) := by
  rw [read_of_readSource hsource, hs.recordDivider, hs.partDivider]
  exact Source.parse_text hb hp text

/-- **With one record on a line a source says the same in the settings and in a file,** if
carriage returns stand only before line breaks there: a reload from either succeeds, and gives the
same snippets in the same order and the same diagnostics, whatever the settings and the files are
otherwise and whichever table is in use. -/
theorem read_held_or_named (hreturns : ReturnsPaired text)
    (hbetween : between = Divider.newlineMark ∨ between = ['\n']) (hparts : parts ≠ [])
    {holding naming : SnippetSettings} {store : Files}
    (hholding : holding.DividesBy between parts) (hheld : holding.HoldsSource text)
    (hnaming : naming.DividesBy between parts) (hnamed : naming.NamesSource store text)
    (files : Files) (t t' : Table) :
    ∃ u u' : Table, (holding.read files).2.map t.next = .ok u ∧
      (naming.read store).2.map t'.next = .ok u' ∧
      u.snippets = u'.snippets ∧ u.diagnostics = u'.diagnostics := by
  have hb := Divider.ne_nil_of_resolved hbetween
  have hread := hholding.read_eq hb hparts (hholding.readSource_held hheld files)
  have hread' := hnaming.read_eq hb hparts (hnaming.readSource_named hnamed)
  rw [Source.textReading_unifyNewlines hbetween hreturns] at hread'
  rw [hread, hread']
  exact ⟨_, _, rfl, rfl, rfl, rfl⟩

/-- A source with line ends of both kinds, a blank line, a line that defines nothing and a trigger
that is defined again. -/
theorem read_held_or_named_mixed :
    let text := "a=1\r\n\r\nx\nb=2\r\na=3\n".toList
    let divided : SnippetSettings :=
      { recordDivider := .text Divider.newlineMark, partDivider := .text ['='] }
    let holding : SnippetSettings := { divided with source := .text text }
    let naming : SnippetSettings := { divided with sourceFile := .text "snippets".toList }
    let files : Files :=
      Files.put {} (workingDirectory ++ ["snippets".toList]) (.file (encode text))
    ∃ u u' : Table,
      (holding.read {}).2.map (Table.next {}) = .ok u ∧
      (naming.read files).2.map (Table.next {}) = .ok u' ∧
        u.snippets = u'.snippets ∧ Entries.keys u.snippets = [['a'], ['b']] ∧
        u.diagnostics = u'.diagnostics ∧
        u.diagnostics = [⟨2, ['x'], .missingDivider (.text ['='])⟩] := by
  intro text divided holding naming files
  have hholding : holding.DividesBy Divider.newlineMark ['='] := ⟨rfl, rfl, rfl⟩
  have hheld : holding.HoldsSource text := ⟨rfl, rfl⟩
  have hnaming : naming.DividesBy Divider.newlineMark ['='] := ⟨rfl, rfl, rfl⟩
  have hnamed : naming.NamesSource files text :=
    ⟨_, Path.parse "snippets".toList, rfl, by decide, by decide +kernel, by decide +kernel⟩
  obtain ⟨u, u', hread, hread', hsnippets, hdiagnostics⟩ :=
    read_held_or_named (by decide) (.inl rfl) (List.cons_ne_nil '=' []) hholding hheld hnaming
      hnamed {} {} {}
  have htable : (holding.read {}).2.map (Table.next {}) =
      .ok { snippets := [(['a'], Escape.compile ['3']), (['b'], Escape.compile ['2'])]
            generation := 1
            diagnostics := [⟨2, ['x'], .missingDivider (.text ['='])⟩] } := by
    decide +kernel
  cases hread.symm.trans htable
  exact ⟨_, u', hread, hread', hsnippets, rfl, hdiagnostics, rfl⟩

end SnippetSettings

end Shorthand
