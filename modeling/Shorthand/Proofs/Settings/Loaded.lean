import Shorthand.Proofs.Settings.Undeclared
import Shorthand.Proofs.Toml.Distinct

set_option autoImplicit false
set_option relaxedAutoImplicit false

/-!
# Loading is all or nothing

The entries of a settings file are put into the settings one by one, and any of them may be
refused when others have been put there already. Then nothing of the file stays: what is loaded
are either all values that the file gives for fields, with the defaults for the others, or the
defaults alone.

A table for the entries of a section, which would take the place of the entries before it, is left
out here.

## Main definitions

* `Shorthand.Settings.TakesOver` — the fields have the values of a file over the defaults.

## Main results

* `Shorthand.Settings.nodup_sectionEntries` — a file gives at most one value for a field.
* `Shorthand.Settings.load_of_not_readable` — a file that cannot be read gives the defaults.
* `Shorthand.Settings.load_all_or_nothing` — loading gives all that a file says, or nothing.
-/

namespace Shorthand.Settings

variable {a : Area} {s : Settings} {file : Entries Value} {files : Files} {p : Path} {name : Text}
    {v : Value}

/-- In every section, a field that a file gives a value for has that value, and any other its
default. A section that the file does not have, or not as a table, has no values there; and the
other sections of the file say nothing. -/
structure TakesOver (s : Settings) (file : Entries Value) : Prop where
  given : ∀ a name v, a.declares name = true → (name, v) ∈ sectionEntries file a →
    Entries.find? (s.fields a) name = some v
  otherwise : ∀ a name, name ∉ Entries.keys (sectionEntries file a) →
    Entries.find? (s.fields a) name = Entries.find? (({} : Settings).fields a) name

/-! ## Entries -/

/-- **An entry is refused** when it cannot be put where it belongs. -/
lemma put_eq_error_iff (a : Area) {e : Text × Value} :
    (∃ f, ({} : Settings).put a e.1 e.2 = .error f) ↔ Refused e := by
  have hdefaults : ({} : Settings).Looks a [] := looks_nil rfl (by cases a <;> rfl)
  rcases put_cases hdefaults e.1 e.2 with ⟨hrefused, herror⟩ | ⟨hnone, s, hput, -⟩
  · exact iff_of_true herror hrefused
  · rw [hput]
    exact iff_of_false nofun hnone

/-- In a section of a file no name stands twice. -/
lemma nodup_sectionEntries (hfile : readEntries files p = some file) (a : Area) :
    (Entries.keys (sectionEntries file a)).Nodup := by
  obtain ⟨bytes, -, hfile⟩ := Option.bind_eq_some_iff.mp hfile
  obtain ⟨text, -, hread⟩ := Option.bind_eq_some_iff.mp hfile
  rw [sectionEntries]
  split
  · rename_i entries hfind
    exact ((Toml.distinct_read hread).of_find? hfind).nodup
  · exact List.nodup_nil

/-- A section that looks as if entries had been put into it has their values over the defaults. -/
lemma Looks.find?_eq_some {entries : Entries Value} (h : s.Looks a entries)
    (hnodup : (Entries.keys entries).Nodup) (hname : a.declares name = true)
    (hmem : (name, v) ∈ entries) :
    Entries.find? (s.fields a) name = some v := by
  rw [h.fields]
  refine Entries.find?_insertAll_of_mem ?_ (List.mem_filter.mpr ⟨hmem, hname⟩) _
  exact hnodup.sublist (List.filter_sublist.map _)

/-- Where no entry is for a name, it has its default. -/
lemma Looks.find?_eq_default {entries : Entries Value} (h : s.Looks a entries)
    (hname : name ∉ Entries.keys entries) :
    Entries.find? (s.fields a) name = Entries.find? (({} : Settings).fields a) name := by
  rw [h.fields]
  refine Entries.find?_insertAll_of_notMem (fun hmem => hname ?_) _
  exact (List.filter_sublist.map _).subset hmem

/-! ## Files -/

/-- **A file that cannot be read gives the defaults.** -/
lemma load_of_not_readable (hnul : '\x00' ∉ p.toText)
    (hthere : ∃ there, files.exists? p = .ok there) (hfile : readEntries files p = none) :
    ∃ log, load files p = (log, .ok {}) := by
  obtain ⟨there, hthere⟩ := hthere
  rw [load, if_neg (by simpa using hnul), hthere]
  cases there with
  | false => exact ⟨_, rfl⟩
  | true =>
    dsimp only
    rw [loadExisting, hfile]
    exact ⟨_, rfl⟩

/-- **Loading is all or nothing.** Whatever stands at the place of the settings file, loading does
not fail. The settings have the values of the file, when it can be read and every entry can be put
where it belongs; they are the defaults, when it cannot be read or an entry is refused.

**Proof sketch.** The file makes its sections look as if their entries had been put into them,
unless one is refused (`merge_looks`), and then what was put there is dropped. No name stands
twice in a section (`Toml.distinct_read`), so that a field has the one value that the file
gives. -/
theorem load_all_or_nothing (hnul : '\x00' ∉ p.toText)
    (hthere : ∃ there, files.exists? p = .ok there) (hentries : ∀ file,
      readEntries files p = some file → ∀ a, entriesName ∉ Entries.keys (sectionEntries file a)) :
    ∃ log s, load files p = (log, .ok s) ∧
      ((∃ file, readEntries files p = some file ∧
          (∀ a, ∀ e ∈ sectionEntries file a, ∃ t, ({} : Settings).put a e.1 e.2 = .ok t) ∧
          s.TakesOver file) ∨
        (readEntries files p = none ∨ ∃ file, readEntries files p = some file ∧
          ∃ a, ∃ e ∈ sectionEntries file a, ∃ f, ({} : Settings).put a e.1 e.2 = .error f) ∧
            s = {}) := by
  cases hfile : readEntries files p with
  | none =>
    obtain ⟨log, hload⟩ := load_of_not_readable hnul hthere hfile
    exact ⟨log, {}, hload, .inr ⟨.inl rfl, rfl⟩⟩
  | some file =>
    obtain ⟨log, hload⟩ := load_of_readEntries hnul hfile
    have hlooks := merge_looks file
    cases hmerge : (merge file).2 with
    | none =>
      rw [hmerge] at hload hlooks
      obtain ⟨a, e, he, hrefused⟩ := hlooks
      exact ⟨log, {}, hload,
        .inr ⟨.inr ⟨file, rfl, a, e, he, (put_eq_error_iff a).mpr hrefused⟩, rfl⟩⟩
    | some s =>
      rw [hmerge] at hload hlooks
      obtain ⟨hnone, hlooks⟩ := hlooks
      have hsection (a : Area) : s.Looks a (sectionEntries file a) := by
        have hinForce := inForceAfter_of_notMem (hentries file hfile a) []
        rw [List.nil_append] at hinForce
        rw [← hinForce]
        exact hlooks a
      refine ⟨log, s, hload, .inl ⟨file, rfl, fun a e he => ?_, ?_, ?_⟩⟩
      · have hput := (put_eq_error_iff a).not.mpr (hnone a e he)
        cases hresult : ({} : Settings).put a e.1 e.2 with
        | error f => exact absurd ⟨f, hresult⟩ hput
        | ok t => exact ⟨t, rfl⟩
      · exact fun a name v hname hmem =>
          (hsection a).find?_eq_some (nodup_sectionEntries hfile a) hname hmem
      · exact fun a name hname => (hsection a).find?_eq_default hname

/-! ## A file that fails at its end -/

/-- Sections with a divider, and with a host; behind that the kind of the last section is set if
that is asked for. -/
def lateRefusal (refused : Bool) : Entries (Entries Value) :=
  [(Area.snippets.name, [("part_divider".toList, .text ['='])]),
    (Area.web.name,
      ("host".toList, .text ['h']) :: if refused then [(kindName, .bool true)] else [])]

/-- Such a file is made of sections. -/
lemma sections_lateRefusal (refused : Bool) : Toml.Sections (lateRefusal refused) where
  bare := by cases refused <;> decide
  flat := by
    refine List.forall_mem_cons.mpr ⟨.of_names ["part_divider".toList] rfl (by decide) ?_,
      List.forall_mem_singleton.mpr ?_⟩
    · simp [Toml.Simple.text]
    · cases refused with
      | false => exact .of_names ["host".toList] rfl (by decide) (by simp [Toml.Simple.text])
      | true =>
        exact .of_names ["host".toList, kindName] rfl (by decide)
          (by simp [Toml.Simple.text, Toml.Simple.bool])
  nodup := by cases refused <;> decide

/-- With an entry that is refused at its end a file gives the defaults, and without that its own
values. -/
theorem load_all_or_nothing_late :
    (∃ files log, readEntries files (defaultPath {}) = some (Toml.tables (lateRefusal true)) ∧
      load files (defaultPath {}) = (log, .ok {})) ∧
    ∃ files log s, readEntries files (defaultPath {}) = some (Toml.tables (lateRefusal false)) ∧
      load files (defaultPath {}) = (log, .ok s) ∧
      Entries.find? (s.fields .snippets) "part_divider".toList = some (.text ['=']) ∧
      Entries.find? (s.fields .web) "host".toList = some (.text ['h']) ∧
      Entries.find? (s.fields .web) "port".toList = some (.int 7866) := by
  have hentries (refused : Bool) {files : Files}
      (hfile : readEntries files (defaultPath {}) = some (Toml.tables (lateRefusal refused))) :
      ∀ file, readEntries files (defaultPath {}) = some file →
        ∀ a, entriesName ∉ Entries.keys (sectionEntries file a) := by
    rintro file h a
    obtain rfl : Toml.tables (lateRefusal refused) = file := Option.some.inj (hfile.symm.trans h)
    cases refused <;> cases a <;> decide
  constructor
  · obtain ⟨files, hfile⟩ := exists_readEntries (sections_lateRefusal true)
    obtain ⟨log, s, hload, ⟨file, hfile', hput, -⟩ | ⟨-, rfl⟩⟩ :=
      load_all_or_nothing (by decide) ⟨true, exists?_of_readEntries hfile⟩ (hentries true hfile)
    · obtain rfl := Option.some.inj (hfile.symm.trans hfile')
      have hkind : (kindName, .bool true) ∈ sectionEntries (Toml.tables (lateRefusal true)) .web :=
        List.mem_cons_of_mem _ List.mem_cons_self
      obtain ⟨t, ht⟩ := hput .web _ hkind
      exact nomatch ht
    · exact ⟨files, log, hfile, hload⟩
  · obtain ⟨files, hfile⟩ := exists_readEntries (sections_lateRefusal false)
    obtain ⟨log, s, hload, ⟨file, hfile', -, htakes⟩ | ⟨hnot, -⟩⟩ :=
      load_all_or_nothing (by decide) ⟨true, exists?_of_readEntries hfile⟩ (hentries false hfile)
    · obtain rfl := Option.some.inj (hfile.symm.trans hfile')
      refine ⟨files, log, s, hfile, hload,
        htakes.given .snippets _ _ (by decide) List.mem_cons_self,
        htakes.given .web _ _ (by decide) List.mem_cons_self, ?_⟩
      exact (htakes.otherwise .web _ (by decide)).trans rfl
    · rcases hnot with hnone | ⟨file, hfile', a, e, he, f, herror⟩
      · rw [hfile] at hnone
        exact nomatch hnone
      · obtain rfl := Option.some.inj (hfile.symm.trans hfile')
        have hrefused := (put_eq_error_iff a).mp ⟨f, herror⟩
        refine absurd hrefused (not_refused_of_declares (a := a) ?_).1
        cases a with
        | snippets =>
          obtain rfl := List.mem_singleton.mp he
          decide
        | triggers => exact absurd he List.not_mem_nil
        | web =>
          obtain rfl := List.mem_singleton.mp he
          decide

end Shorthand.Settings
