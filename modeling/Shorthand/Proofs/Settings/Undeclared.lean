import Mathlib.Data.List.Basic
import Shorthand.Proofs.Entries.Definitions
import Shorthand.Proofs.Files.Store
import Shorthand.Proofs.Text.Utf8
import Shorthand.Proofs.Toml.Document
import Shorthand.Settings.Store

set_option autoImplicit false
set_option relaxedAutoImplicit false

/-!
# Names that are no fields

A section takes a value for any name that it answers to, and it answers to more names than it has
fields. Most of these names mean nothing, as an unknown name does. But the kind of a section and
the references to it cannot be set, so that a file that tries has no effect at all; a table for
the entries of a section takes the place of all entries before it; and a value for the reading of
the source, or for the key of the table, takes the place of that. So it is not true that names
that are no fields have no effect: this says exactly which effect they have.

## Main definitions

* `Shorthand.Area.declares` — a name is that of a field.
* `Shorthand.Settings.declared` — the entries that are for fields.
* `Shorthand.Settings.Refused` — an entry that no section takes.
* `Shorthand.Settings.inForce` — the entries of a section that none after them takes the place of.
* `Shorthand.Settings.Looks` — a section looks as if some entries had been put into it.

## Main results

* `Shorthand.Settings.mergeSection_looks`, `Shorthand.Settings.mergeAreas_looks` — what a file
  makes of sections.
* `Shorthand.Settings.Looks.readSource_eq`, `Shorthand.Settings.Looks.tableKey_eq` — what a
  section does.
* `Shorthand.Settings.load_declared` — what a file means next to one with fields only.
* `Shorthand.Settings.not_forall_load_declared` — they do not always mean the same.
-/

namespace Shorthand

/-! ## Fields and other names -/

/-- A name is that of a field of a section. -/
def Area.declares (a : Area) (key : Text) : Bool := Entries.has (({} : Settings).fields a) key

/-- The names of what a section does, besides having fields. -/
def Area.methods : Area → List Text
  | .snippets => [SnippetSettings.sourceReaderName, SnippetSettings.tableKeyName]
  | _ => []

namespace Settings

variable {a b : Area} {s s' : Settings} {key : Text} {v : Value} {file entries done : Entries Value}

/-- Whatever the values are, the names of the fields are the same. -/
lemma has_fields (s : Settings) (a : Area) (key : Text) :
    Entries.has (s.fields a) key = a.declares key := by
  have hkeys : Entries.keys (s.fields a) = Entries.keys (({} : Settings).fields a) := by
    cases a <;> rfl
  rw [Area.declares, Bool.eq_iff_iff, Entries.has_iff_mem_keys, Entries.has_iff_mem_keys, hkeys]

/-- A value for a field is a definition of it, and concerns no other name. -/
lemma assign_of_declares (h : a.declares key = true) (s : Settings) (v : Value) :
    (s.assign a key v).fields a = Entries.insert (s.fields a) key v ∧
      (s.assign a key v).other a = s.other a := by
  have hmem : key ∈ Entries.keys (({} : Settings).fields a) := (Entries.has_iff_mem_keys _ _).mp h
  cases a with
  | snippets =>
    have hnames : key ∈ ["source".toList, "source_file".toList, "snippet_divider".toList,
      "part_divider".toList, "multiline_lhs".toList] := hmem
    simp only [List.mem_cons, List.not_mem_nil, or_false] at hnames
    rcases hnames with rfl | rfl | rfl | rfl | rfl <;> exact ⟨rfl, rfl⟩
  | triggers =>
    have hnames : key ∈ ["space".toList, "tab".toList, "enter".toList] := hmem
    simp only [List.mem_cons, List.not_mem_nil, or_false] at hnames
    rcases hnames with rfl | rfl | rfl <;> exact ⟨rfl, rfl⟩
  | web =>
    have hnames : key ∈ ["host".toList, "port".toList] := hmem
    simp only [List.mem_cons, List.not_mem_nil, or_false] at hnames
    rcases hnames with rfl | rfl <;> exact ⟨rfl, rfl⟩

/-- A value for any other name is a definition of that, and concerns no field. -/
lemma assign_of_not_declares (h : a.declares key = false) (s : Settings) (v : Value) :
    (s.assign a key v).fields a = s.fields a ∧
      (s.assign a key v).other a = Entries.insert (s.other a) key v := by
  have hmem : key ∉ Entries.keys (({} : Settings).fields a) := by
    rw [← Entries.has_iff_mem_keys]
    exact Bool.eq_false_iff.mp h
  cases a <;>
    simp only [Entries.keys, fields, SnippetSettings.fields, TriggerSettings.fields,
      WebSettings.fields, List.map_cons, List.map_nil, List.mem_cons, List.not_mem_nil, or_false,
      not_or] at hmem <;>
    simp only [assign, SnippetSettings.assign, TriggerSettings.assign, WebSettings.assign, hmem,
      if_false] <;>
    exact ⟨rfl, rfl⟩

/-- An assignment concerns no other section. -/
lemma other_assign_of_ne (h : a ≠ b) (s : Settings) (key : Text) (v : Value) :
    (s.assign a key v).other b = s.other b := by
  cases a <;> cases b <;> first | exact absurd rfl h | rfl

/-- The entries of a list that are for fields of a section. -/
def declared (a : Area) (entries : Entries Value) : Entries Value :=
  entries.filter fun e => a.declares e.1

/-- A declared entry at the end stays. -/
lemma declared_concat_of_declares (h : a.declares key = true) (entries : Entries Value)
    (v : Value) :
    declared a (entries ++ [(key, v)]) = declared a entries ++ [(key, v)] := by
  simp [declared, List.filter_append, h]

/-- Another entry at the end goes. -/
lemma declared_concat_of_not_declares (h : a.declares key = false) (entries : Entries Value)
    (v : Value) :
    declared a (entries ++ [(key, v)]) = declared a entries := by
  simp [declared, List.filter_append, h]

/-! ## What a section looks like -/

/-- A section looks as if some entries had been put into it when it had the defaults: its fields
have the last values that were put there, and it does what it is asked for unless a value was put
under that name. -/
structure Looks (s : Settings) (a : Area) (entries : Entries Value) : Prop where
  fields : s.fields a = Entries.insertAll (({} : Settings).fields a) (declared a entries)
  methods : ∀ name ∈ a.methods, (name ∈ Entries.keys (s.other a) ↔ name ∈ Entries.keys entries)

/-- A section without values for other names looks like the defaults, if its fields have these. -/
lemma looks_nil (hfields : s.fields a = ({} : Settings).fields a) (hother : s.other a = []) :
    s.Looks a [] :=
  ⟨hfields, fun name _ => by rw [hother]⟩

/-- A section looks the same as long as it is the same. -/
lemma Looks.of_same (h : s.Looks a entries) (hfields : s'.fields a = s.fields a)
    (hother : s'.other a = s.other a) : s'.Looks a entries :=
  ⟨hfields.trans h.fields, fun name hname => by rw [hother]; exact h.methods name hname⟩

/-- What a section does is none of its fields. -/
lemma declares_of_mem_methods (h : key ∈ a.methods) : a.declares key = false := by
  cases a with
  | snippets =>
    simp only [Area.methods, List.mem_cons, List.not_mem_nil, or_false] at h
    rcases h with rfl | rfl <;> decide
  | triggers => exact nomatch h
  | web => exact nomatch h

/-- One more name. -/
private lemma mem_keys_concat (name : Text) (entries : Entries Value) (key : Text) (v : Value) :
    name ∈ Entries.keys (entries ++ [(key, v)]) ↔ name ∈ Entries.keys entries ∨ name = key := by
  simp [Entries.keys]

/-- One more value for a name. -/
lemma Looks.assign (h : s.Looks a done) (key : Text) (v : Value) :
    (s.assign a key v).Looks a (done ++ [(key, v)]) := by
  cases hdeclares : a.declares key with
  | true =>
    obtain ⟨hfields, hother⟩ := assign_of_declares hdeclares s v
    refine ⟨?_, fun name hname => ?_⟩
    · rw [hfields, h.fields, declared_concat_of_declares hdeclares, Entries.insertAll_concat]
    · have hne : name ≠ key := by
        rintro rfl
        exact Bool.false_ne_true ((declares_of_mem_methods hname).symm.trans hdeclares)
      rw [hother, h.methods name hname, mem_keys_concat, or_iff_left hne]
  | false =>
    obtain ⟨hfields, hother⟩ := assign_of_not_declares hdeclares s v
    refine ⟨?_, fun name hname => ?_⟩
    · rw [hfields, h.fields, declared_concat_of_not_declares hdeclares]
    · have hinsert : name ∈ Entries.keys (Entries.insert (s.other a) key v) ↔
          name ∈ Entries.keys (s.other a) ∨ name = key := by
        rw [Entries.keys_insert]
        split
        · exact (or_iff_left_of_imp fun hname => by rwa [hname]).symm
        · rw [List.mem_append, List.mem_singleton]
      rw [hother, hinsert, h.methods name hname, mem_keys_concat]

/-- Values for names, one after the other. -/
lemma Looks.assignAll (h : s.Looks a done) (entries : Entries Value) :
    (s.assignAll a entries).Looks a (done ++ entries) := by
  induction entries generalizing s done with
  | nil => rwa [List.append_nil]
  | cons e rest ih =>
    rw [← List.singleton_append, ← List.append_assoc]
    exact ih (h.assign e.1 e.2)

/-- A value for a name that the section does not answer to. -/
lemma Looks.ignore (h : s.Looks a done) (hanswers : s.answers a key = false) (v : Value) :
    s.Looks a (done ++ [(key, v)]) := by
  simp only [answers, has_fields, Bool.or_eq_false_iff, Bool.and_eq_false_iff,
    beq_eq_false_iff_ne] at hanswers
  obtain ⟨⟨⟨⟨⟨⟨hdeclares, -⟩, -⟩, -⟩, -⟩, -⟩, hmethods⟩ := hanswers
  refine ⟨?_, fun name hname => ?_⟩
  · rw [h.fields, declared_concat_of_not_declares hdeclares]
  · have hne : name ≠ key := by
      rintro rfl
      cases a with
      | snippets => simp_all [Area.methods]
      | triggers => exact absurd hname List.not_mem_nil
      | web => exact absurd hname List.not_mem_nil
    rw [h.methods name hname, mem_keys_concat, or_iff_left hne]

/-! ## The entries of a section -/

/-- An entry that no section takes: its kind and the references to it cannot be set, and its
entries only by a table. -/
def Refused (e : Text × Value) : Prop :=
  e.1 = kindName ∨ e.1 = referencesName ∨ e.1 = entriesName ∧ ∀ packed, e.2 ≠ .table packed

/-- Only under three names is an entry refused. -/
lemma not_refused_of_notMem {e : Text × Value} (h : e.1 ∉ [kindName, referencesName, entriesName]) :
    ¬Refused e := by
  simp only [List.mem_cons, List.not_mem_nil, or_false, not_or] at h
  rintro (hkind | hreferences | ⟨hentries, -⟩)
  · exact h.1 hkind
  · exact h.2.1 hreferences
  · exact h.2.2 hentries

/-- The entries that a value holds. -/
def packed : Value → Entries Value
  | .table entries => entries
  | _ => []

/-- The entries of a section that are in force after some others: a table for the entries of the
section takes the place of all before it. -/
def inForceAfter (done : Entries Value) : Entries Value → Entries Value
  | [] => done
  | (key, v) :: rest =>
    if key = entriesName then inForceAfter (packed v) rest
    else inForceAfter (done ++ [(key, v)]) rest

/-- The entries of a section that are in force. -/
def inForce (entries : Entries Value) : Entries Value := inForceAfter [] entries

/-- Without a table for the entries of the section all entries are in force. -/
lemma inForceAfter_of_notMem (h : entriesName ∉ Entries.keys entries) (done : Entries Value) :
    inForceAfter done entries = done ++ entries := by
  induction entries generalizing done with
  | nil => rw [inForceAfter, List.append_nil]
  | cons e rest ih =>
    obtain ⟨hne, hrest⟩ : entriesName ≠ e.1 ∧ entriesName ∉ Entries.keys rest := by
      simpa [Entries.keys] using h
    rw [inForceAfter, if_neg (Ne.symm hne), ih hrest, List.append_assoc, List.singleton_append]

/-- Another section is left alone. -/
def Untouched (a : Area) (s s' : Settings) : Prop :=
  ∀ b, b ≠ a → s'.fields b = s.fields b ∧ s'.other b = s.other b

/-- An assignment leaves the other areas alone. -/
lemma untouched_assign (s : Settings) (a : Area) (key : Text) (v : Value) :
    Untouched a s (s.assign a key v) := fun _ hb =>
  ⟨fields_assign_of_ne (Ne.symm hb) s key v, other_assign_of_ne (Ne.symm hb) s key v⟩

/-- One change after the other. -/
lemma Untouched.trans {s'' : Settings} (h : Untouched a s s') (h' : Untouched a s' s'') :
    Untouched a s s'' := fun b hb =>
  ⟨(h' b hb).1.trans (h b hb).1, (h' b hb).2.trans (h b hb).2⟩

/-- So do assignments one after the other. -/
lemma untouched_assignAll (s : Settings) (a : Area) (entries : Entries Value) :
    Untouched a s (s.assignAll a entries) := by
  induction entries generalizing s with
  | nil => exact fun _ _ => ⟨rfl, rfl⟩
  | cons e rest ih => exact (untouched_assign s a e.1 e.2).trans (ih _)

/-- The defaults in a section. -/
lemma looks_resetSection (s : Settings) (a : Area) :
    (s.resetSection a).Looks a [] ∧ Untouched a s (s.resetSection a) := by
  refine ⟨looks_nil ?_ ?_, fun b hb => ?_⟩
  · cases a <;> rfl
  · cases a <;> rfl
  · cases a <;> cases b <;> first | exact absurd rfl hb | exact ⟨rfl, rfl⟩

/-- **What becomes of an entry** that a section answers to: it is refused, or it is in force from
then on. -/
lemma put_cases (h : s.Looks a done) (key : Text) (v : Value) :
    (Refused (key, v) ∧ ∃ f, s.put a key v = .error f) ∨
      ¬Refused (key, v) ∧ ∃ s', s.put a key v = .ok s' ∧
        s'.Looks a (inForceAfter done [(key, v)]) ∧ Untouched a s s' := by
  unfold put
  rw [inForceAfter]
  by_cases hentries : key = entriesName
  · rw [if_pos hentries, if_pos hentries]
    subst hentries
    cases v with
    | table entries =>
      refine .inr ⟨?_, _, rfl, ?_, ?_⟩
      · rintro (hkind | hreferences | ⟨-, hpacked⟩)
        · exact absurd hkind (show entriesName ≠ kindName by decide)
        · exact absurd hreferences (show entriesName ≠ referencesName by decide)
        · exact hpacked entries rfl
      · exact (looks_resetSection s a).1.assignAll entries
      · exact (looks_resetSection s a).2.trans (untouched_assignAll _ a entries)
    | _ => exact .inl ⟨.inr (.inr ⟨rfl, fun _ => nofun⟩), _, rfl⟩
  · rw [if_neg hentries, if_neg hentries]
    by_cases hkind : key = kindName
    · rw [if_pos hkind]
      exact .inl ⟨.inl hkind, _, rfl⟩
    rw [if_neg hkind]
    by_cases hreferences : key = referencesName
    · rw [if_pos hreferences]
      exact .inl ⟨.inr (.inl hreferences), _, rfl⟩
    rw [if_neg hreferences]
    refine .inr ⟨not_refused_of_notMem ?_, _, rfl, h.assign key v, untouched_assign s a key v⟩
    simp [hkind, hreferences, hentries]

/-- What a section does not answer to is refused by none, and is no table for its entries. -/
lemma not_refused_of_not_answers (h : s.answers a key = false) (v : Value) :
    ¬Refused (key, v) ∧ key ≠ entriesName := by
  simp only [answers, Bool.or_eq_false_iff, beq_eq_false_iff_ne] at h
  obtain ⟨⟨⟨⟨-, hentries⟩, hkind⟩, hreferences⟩, -⟩ := h
  exact ⟨not_refused_of_notMem (by simp [hkind, hreferences, hentries]), hentries⟩

/-- One entry after others is in force before those behind it. -/
lemma inForceAfter_cons (done : Entries Value) (e : Text × Value) (rest : Entries Value) :
    inForceAfter done (e :: rest) = inForceAfter (inForceAfter done [e]) rest := by
  obtain ⟨key, v⟩ := e
  simp only [inForceAfter]
  split <;> rfl

/-- **What the entries of a file make of a section:** it looks as if those that are in force had
been put into it, unless one of them is refused. -/
theorem mergeSection_looks (entries : Entries Value) (h : s.Looks a done) :
    match (mergeSection a s entries).2 with
    | none => ∃ e ∈ entries, Refused e
    | some s' =>
      (∀ e ∈ entries, ¬Refused e) ∧ s'.Looks a (inForceAfter done entries) ∧ Untouched a s s' := by
  induction entries generalizing s done with
  | nil => exact ⟨List.forall_mem_nil _, h, fun _ _ => ⟨rfl, rfl⟩⟩
  | cons e rest ih =>
    obtain ⟨key, v⟩ := e
    -- what the rest makes of the section that the first entry leaves
    have hrest {s₁ : Settings} (hfirst : ¬Refused (key, v))
        (hlooks : s₁.Looks a (inForceAfter done [(key, v)])) (hsame : Untouched a s s₁) :
        match (mergeSection a s₁ rest).2 with
        | none => ∃ e ∈ (key, v) :: rest, Refused e
        | some s' => (∀ e ∈ (key, v) :: rest, ¬Refused e) ∧
            s'.Looks a (inForceAfter done ((key, v) :: rest)) ∧ Untouched a s s' := by
      have := ih hlooks
      cases hresult : (mergeSection a s₁ rest).2 with
      | none =>
        rw [hresult] at this
        obtain ⟨e, he, hrefused⟩ := this
        exact ⟨e, List.mem_cons_of_mem _ he, hrefused⟩
      | some s' =>
        rw [hresult] at this
        obtain ⟨hnone, hlooks', hsame'⟩ := this
        refine ⟨List.forall_mem_cons.mpr ⟨hfirst, hnone⟩, ?_, hsame.trans hsame'⟩
        rw [inForceAfter_cons]
        exact hlooks'
    rw [mergeSection]
    cases hanswers : s.answers a key with
    | true =>
      rw [if_pos rfl]
      obtain ⟨hrefused, f, hput⟩ | ⟨hfirst, s₁, hput, hlooks, hsame⟩ := put_cases h key v
      · rw [hput]
        exact ⟨_, List.mem_cons_self, hrefused⟩
      · rw [hput]
        exact hrest hfirst hlooks hsame
    | false =>
      obtain ⟨hfirst, hne⟩ := not_refused_of_not_answers hanswers v
      rw [if_neg Bool.false_ne_true]
      refine hrest hfirst ?_ fun _ _ => ⟨rfl, rfl⟩
      rw [inForceAfter, if_neg hne]
      exact h.ignore hanswers v

/-! ## The sections of a file -/

/-- The entries that a file has for a section. -/
def sectionEntries (file : Entries Value) (a : Area) : Entries Value :=
  match Entries.find? file a.name with
  | some (.table entries) => entries
  | _ => []

/-- The sections of a file are taken over one by one, also those that are not there. -/
lemma mergeAreas_cons (file : Entries Value) (a : Area) (rest : List Area) (s : Settings) :
    (mergeAreas file (a :: rest) s).2 =
      (mergeSection a s (sectionEntries file a)).2.bind fun s' => (mergeAreas file rest s').2 := by
  rw [mergeAreas, sectionEntries]
  cases Entries.find? file a.name with
  | none => rfl
  | some v =>
    cases v with
    | table entries =>
      dsimp only
      generalize mergeSection a s entries = r
      obtain ⟨log, _ | s'⟩ := r <;> rfl
    | _ => rfl

/-- **What a file makes of sections:** each looks as if the entries that are in force in it had
been put into it, unless the file has an entry that is refused. -/
theorem mergeAreas_looks (file : Entries Value) {areas : List Area} (hnodup : areas.Nodup)
    (h : ∀ a ∈ areas, s.Looks a []) :
    match (mergeAreas file areas s).2 with
    | none => ∃ a ∈ areas, ∃ e ∈ sectionEntries file a, Refused e
    | some s' => (∀ a ∈ areas, ∀ e ∈ sectionEntries file a, ¬Refused e) ∧
        (∀ a ∈ areas, s'.Looks a (inForce (sectionEntries file a))) ∧
        ∀ b ∉ areas, s'.fields b = s.fields b ∧ s'.other b = s.other b := by
  induction areas generalizing s with
  | nil => exact ⟨List.forall_mem_nil _, List.forall_mem_nil _, fun _ _ => ⟨rfl, rfl⟩⟩
  | cons a rest ih =>
    obtain ⟨hnew, hnodup⟩ := List.nodup_cons.mp hnodup
    obtain ⟨ha, hrest⟩ := List.forall_mem_cons.mp h
    have hsection := mergeSection_looks (sectionEntries file a) ha
    rw [mergeAreas_cons]
    cases hresult : (mergeSection a s (sectionEntries file a)).2 with
    | none =>
      rw [hresult] at hsection
      exact ⟨a, List.mem_cons_self, hsection⟩
    | some s₁ =>
      rw [hresult] at hsection
      obtain ⟨hnone, hlooks, hsame⟩ := hsection
      have hrest₁ : ∀ b ∈ rest, s₁.Looks b [] := fun b hb =>
        have hne : b ≠ a := fun e => hnew (e ▸ hb)
        (hrest b hb).of_same (hsame b hne).1 (hsame b hne).2
      have hareas := ih hnodup hrest₁
      rw [Option.bind_some]
      cases hresult' : (mergeAreas file rest s₁).2 with
      | none =>
        rw [hresult'] at hareas
        obtain ⟨b, hb, hrefused⟩ := hareas
        exact ⟨b, List.mem_cons_of_mem _ hb, hrefused⟩
      | some s' =>
        rw [hresult'] at hareas
        obtain ⟨hnone', hlooks', hsame'⟩ := hareas
        refine ⟨List.forall_mem_cons.mpr ⟨hnone, hnone'⟩, List.forall_mem_cons.mpr ⟨?_, hlooks'⟩,
          fun b hb => ?_⟩
        · exact hlooks.of_same (hsame' a hnew).1 (hsame' a hnew).2
        · obtain ⟨hne, hb⟩ := not_or.mp (List.mem_cons.not.mp hb)
          exact ⟨(hsame' b hb).1.trans (hsame b hne).1, (hsame' b hb).2.trans (hsame b hne).2⟩

/-! ## What a section does -/

/-- The names of what a section does are in no list of entries for fields. -/
lemma notMem_keys_declared (h : key ∈ a.methods) (entries : Entries Value) :
    key ∉ Entries.keys (declared a entries) := by
  intro hmem
  obtain ⟨e, he, rfl⟩ := List.mem_map.mp hmem
  exact Bool.false_ne_true ((declares_of_mem_methods h).symm.trans (List.mem_filter.mp he).2)

/-- Entries for fields are all for fields. -/
lemma declared_declared (a : Area) (entries : Entries Value) :
    declared a (declared a entries) = declared a entries := by
  simp [declared, List.filter_filter]

/-- A section looks in its fields as if only the entries for fields had been put into it. -/
lemma Looks.fields_eq (h : s.Looks a entries) (h' : s'.Looks a (declared a entries)) :
    s.fields a = s'.fields a := by
  rw [h.fields, h'.fields, declared_declared]

variable {c c' : SnippetSettings} (store : Files)

/-- What is done with the source depends on fields, if nothing was put in its place. -/
lemma readSource_congr (hfields : c.fields = c'.fields)
    (h : Entries.has c'.other SnippetSettings.sourceReaderName = false) :
    c.readSource store =
      if Entries.has c.other SnippetSettings.sourceReaderName
        then ([], .error .sourceReaderReplaced)
      else c'.readSource store := by
  obtain ⟨source, sourceFile, between, parts, multiline, other⟩ := c
  obtain ⟨source', sourceFile', between', parts', multiline', other'⟩ := c'
  simp only [SnippetSettings.fields, List.cons.injEq, Prod.mk.injEq, true_and, and_true] at hfields
  obtain ⟨rfl, rfl, rfl, rfl, rfl⟩ := hfields
  rw [SnippetSettings.readSource, SnippetSettings.readSource, h, if_neg Bool.false_ne_true]

/-- **What a section does with its source** is what it does with fields only, unless a value was
put under the name of that. -/
theorem Looks.readSource_eq (h : s.Looks .snippets entries)
    (h' : s'.Looks .snippets (declared .snippets entries)) :
    s.snippets.readSource store =
      if SnippetSettings.sourceReaderName ∈ Entries.keys entries
        then ([], .error .sourceReaderReplaced)
      else s'.snippets.readSource store := by
  have hname : SnippetSettings.sourceReaderName ∈ Area.snippets.methods := List.mem_cons_self
  have hhas : Entries.has s'.snippets.other SnippetSettings.sourceReaderName = false := by
    rw [← Bool.not_eq_true, Entries.has_iff_mem_keys]
    exact fun hmem => notMem_keys_declared hname entries ((h'.methods _ hname).mp hmem)
  have hiff : Entries.has s.snippets.other SnippetSettings.sourceReaderName = true ↔
      SnippetSettings.sourceReaderName ∈ Entries.keys entries := by
    rw [Entries.has_iff_mem_keys]
    exact h.methods _ hname
  rw [readSource_congr store (h.fields_eq h') hhas]
  simp only [hiff]

/-- **The key of the table** is that with fields only, unless a value was put under its name or
under that of the reading of the source. -/
theorem Looks.tableKey_eq (h : s.Looks .snippets entries)
    (h' : s'.Looks .snippets (declared .snippets entries)) :
    s.snippets.tableKey store =
      if SnippetSettings.tableKeyName ∈ Entries.keys entries then ([], .error .tableKeyReplaced)
      else if SnippetSettings.sourceReaderName ∈ Entries.keys entries
        then ([], .error .sourceReaderReplaced)
      else s'.snippets.tableKey store := by
  have hname : SnippetSettings.tableKeyName ∈ Area.snippets.methods :=
    List.mem_cons_of_mem _ List.mem_cons_self
  have hhas : Entries.has s'.snippets.other SnippetSettings.tableKeyName = false := by
    rw [← Bool.not_eq_true, Entries.has_iff_mem_keys]
    exact fun hmem => notMem_keys_declared hname entries ((h'.methods _ hname).mp hmem)
  have hiff : Entries.has s.snippets.other SnippetSettings.tableKeyName = true ↔
      SnippetSettings.tableKeyName ∈ Entries.keys entries := by
    rw [Entries.has_iff_mem_keys]
    exact h.methods _ hname
  have hfields : s.snippets.fields = s'.snippets.fields := h.fields_eq h'
  simp only [SnippetSettings.fields, List.cons.injEq, Prod.mk.injEq, true_and, and_true] at hfields
  obtain ⟨-, -, hbetween, hparts, -⟩ := hfields
  rw [SnippetSettings.tableKey, SnippetSettings.tableKey, hhas, if_neg Bool.false_ne_true,
    h.readSource_eq store h', hbetween, hparts]
  simp only [hiff]
  split
  · rfl
  · split <;> rfl

/-! ## Files -/

/-- A file that can be read is there. -/
lemma exists?_of_readEntries {files : Files} {p : Path} (hfile : readEntries files p = some file) :
    files.exists? p = .ok true := by
  rw [Files.exists?]
  cases hfind : files.find p with
  | ok node => rfl
  | error fault =>
    have hread : files.read p = .error fault := by
      rw [Files.read, hfind]
      rfl
    rw [readEntries, hread] at hfile
    cases hfile

/-- It is merged into the defaults, and the defaults stay if that fails. -/
lemma load_of_readEntries {files : Files} {p : Path} (hnul : '\x00' ∉ p.toText)
    (hfile : readEntries files p = some file) :
    ∃ log, load files p = (log, .ok ((merge file).2.getD {})) := by
  rw [load, if_neg (by simpa using hnul), exists?_of_readEntries hfile]
  dsimp only
  rw [loadExisting, hfile]
  dsimp only
  obtain ⟨log, _ | s⟩ := merge file
  · exact ⟨_, rfl⟩
  · exact ⟨_, rfl⟩

/-- **What a file makes of the defaults:** each section looks as if the entries that are in force
in it had been put into it, unless the file has an entry that is refused. -/
theorem merge_looks (file : Entries Value) :
    match (merge file).2 with
    | none => ∃ a, ∃ e ∈ sectionEntries file a, Refused e
    | some s => (∀ a, ∀ e ∈ sectionEntries file a, ¬Refused e) ∧
        ∀ a, s.Looks a (inForce (sectionEntries file a)) := by
  have hall (a : Area) : a ∈ Area.all := by cases a <;> decide
  have hdefaults (a : Area) : ({} : Settings).Looks a [] := looks_nil rfl (by cases a <;> rfl)
  have hareas := mergeAreas_looks file (show Area.all.Nodup by decide) fun a _ => hdefaults a
  rw [merge]
  cases hmerge : (mergeAreas file Area.all {}).2 with
  | none =>
    rw [hmerge] at hareas
    obtain ⟨a, -, hrefused⟩ := hareas
    exact ⟨a, hrefused⟩
  | some s =>
    rw [hmerge] at hareas
    exact ⟨fun a => hareas.1 a (hall a), fun a => hareas.2.1 a (hall a)⟩

/-- No entry for a field is refused, and none is a table for the entries of a section. -/
lemma not_refused_of_declares {e : Text × Value} (h : a.declares e.1 = true) :
    ¬Refused e ∧ e.1 ≠ entriesName := by
  have hne (name : Text) (hname : a.declares name = false) : e.1 ≠ name := fun he =>
    Bool.false_ne_true (hname.symm.trans (he ▸ h))
  have hentries : e.1 ≠ entriesName := hne _ (by cases a <;> decide)
  have hkind : e.1 ≠ kindName := hne _ (by cases a <;> decide)
  have hreferences : e.1 ≠ referencesName := hne _ (by cases a <;> decide)
  exact ⟨not_refused_of_notMem (by simp [hkind, hreferences, hentries]), hentries⟩

/-- Entries for fields are all in force. -/
lemma inForce_declared (a : Area) (entries : Entries Value) :
    inForce (declared a entries) = declared a entries := by
  refine inForceAfter_of_notMem (fun hmem => ?_) []
  obtain ⟨e, he, hname⟩ := List.mem_map.mp hmem
  exact (not_refused_of_declares (List.mem_filter.mp he).2).2 hname

/-- A file with entries for fields only is taken over. -/
lemma merge_declared {reduced : Entries Value} {entries : Area → Entries Value}
    (h : ∀ a, sectionEntries reduced a = declared a (entries a)) :
    ∃ s', (merge reduced).2 = some s' ∧ ∀ a, s'.Looks a (declared a (entries a)) := by
  have hlooks := merge_looks reduced
  cases hmerge : (merge reduced).2 with
  | none =>
    rw [hmerge] at hlooks
    obtain ⟨a, e, he, hrefused⟩ := hlooks
    rw [h a] at he
    exact absurd hrefused (not_refused_of_declares (List.mem_filter.mp he).2).1
  | some s' =>
    rw [hmerge] at hlooks
    refine ⟨s', rfl, fun a => ?_⟩
    have := hlooks.2 a
    rwa [h a, inForce_declared] at this

/-- **What a file means next to one with fields only.** An entry that is refused takes all effect
from the file. Otherwise all fields have the values that they have with the fields only, of the
entries that are in force; and so do the source and the key of the table, unless values were put
in the place of what gives them. All entries are in force unless a section has a table for its
entries.

**Proof sketch.** Both files make their sections look as if the entries in force had been put into
them, one after the other (`merge_looks`), and a value for a name that is no field changes no
field. -/
theorem load_declared {files files' : Files} {p : Path} {file reduced : Entries Value}
    (hnul : '\x00' ∉ p.toText) (hfile : readEntries files p = some file)
    (hfile' : readEntries files' p = some reduced)
    (hreduced : ∀ a, sectionEntries reduced a = declared a (inForce (sectionEntries file a))) :
    ∃ log log' s s', load files p = (log, .ok s) ∧ load files' p = (log', .ok s') ∧
      ((∃ a, ∃ e ∈ sectionEntries file a, Refused e) → s = {}) ∧
      ((∀ a, ∀ e ∈ sectionEntries file a, ¬Refused e) →
        (∀ a, s.fields a = s'.fields a) ∧
        ∀ store : Files,
          s.snippets.readSource store =
            (if SnippetSettings.sourceReaderName ∈
              Entries.keys (inForce (sectionEntries file .snippets)) then
              ([], .error .sourceReaderReplaced)
            else s'.snippets.readSource store) ∧
          s.snippets.tableKey store =
            (if SnippetSettings.tableKeyName ∈
              Entries.keys (inForce (sectionEntries file .snippets)) then
              ([], .error .tableKeyReplaced)
            else if SnippetSettings.sourceReaderName ∈
              Entries.keys (inForce (sectionEntries file .snippets)) then
              ([], .error .sourceReaderReplaced)
            else s'.snippets.tableKey store)) ∧
      ∀ a, entriesName ∉ Entries.keys (sectionEntries file a) →
        inForce (sectionEntries file a) = sectionEntries file a := by
  obtain ⟨log, hload⟩ := load_of_readEntries hnul hfile
  obtain ⟨log', hload'⟩ := load_of_readEntries hnul hfile'
  obtain ⟨s', hmerge', hlooks'⟩ := merge_declared hreduced
  rw [hmerge'] at hload'
  have hlooks := merge_looks file
  refine ⟨log, log', _, s', hload, hload', ?_⟩
  cases hmerge : (merge file).2 with
  | none =>
    rw [hmerge] at hlooks
    obtain ⟨a, e, he, hrefused⟩ := hlooks
    exact ⟨fun _ => rfl, fun hnone => absurd hrefused (hnone a e he),
      fun a ha => inForceAfter_of_notMem ha []⟩
  | some s =>
    rw [hmerge] at hlooks
    obtain ⟨hnone, hlooks⟩ := hlooks
    refine ⟨fun ⟨a, e, he, hrefused⟩ => absurd hrefused (hnone a e he),
      fun _ => ⟨fun a => ?_, fun store => ⟨?_, ?_⟩⟩, fun a ha => inForceAfter_of_notMem ha []⟩
    · exact (hlooks a).fields_eq (hlooks' a)
    · exact (hlooks .snippets).readSource_eq store (hlooks' .snippets)
    · exact (hlooks .snippets).tableKey_eq store (hlooks' .snippets)

/-! ## A name that has an effect -/

/-- There are files that have given sections in the settings file of the user. -/
lemma exists_readEntries {sections : Entries (Entries Value)} (h : Toml.Sections sections) :
    ∃ files, readEntries files (defaultPath {}) = some (Toml.tables sections) := by
  obtain ⟨opened, hopened⟩ : ∃ opened,
      Files.store {} (defaultPath {}) (.file []) = (opened, none) :=
    ⟨_, Prod.ext rfl (by decide +kernel)⟩
  obtain ⟨files, -, -, hread⟩ :=
    Files.store_file_again hopened (Text.encode (Toml.write (Toml.tables sections)))
  refine ⟨files, ?_⟩
  rw [readEntries, hread]
  simp [Except.toOption, Text.decode?_encode, Toml.read_write h]

/-- A section of snippets with a value in the place of what reads the source, and another unknown
name. -/
def readerReplaced : Entries (Entries Value) :=
  [(Area.snippets.name, [("part_divider".toList, .text "=".toList),
    (SnippetSettings.sourceReaderName, .bool true), ("escape".toList, .bool true)])]

/-- The same section with its field only. -/
def readerKept : Entries (Entries Value) :=
  [(Area.snippets.name, [("part_divider".toList, .text "=".toList)])]

/-- Such a file is made of sections. -/
lemma sections_readerReplaced : Toml.Sections readerReplaced where
  bare := by decide
  flat := by
    refine List.forall_mem_singleton.mpr (.of_names _ rfl (by decide) ?_)
    simp [Toml.Simple.text, Toml.Simple.bool]
  nodup := by decide

/-- So is the one without the entry. -/
lemma sections_readerKept : Toml.Sections readerKept where
  bare := by decide
  flat := by
    refine List.forall_mem_singleton.mpr (.of_names _ rfl (by decide) ?_)
    simp [Toml.Simple.text]
  nodup := by decide

/-- The first has the fields of the second, but its source is not read any more. -/
theorem load_declared_reader :
    ∃ files files' log log' s s',
      readEntries files (defaultPath {}) = some (Toml.tables readerReplaced) ∧
      readEntries files' (defaultPath {}) = some (Toml.tables readerKept) ∧
      load files (defaultPath {}) = (log, .ok s) ∧ load files' (defaultPath {}) = (log', .ok s') ∧
      (∀ a, s.fields a = s'.fields a) ∧
      ∀ store : Files, s.snippets.readSource store = ([], .error .sourceReaderReplaced) := by
  obtain ⟨files, hfile⟩ := exists_readEntries sections_readerReplaced
  obtain ⟨files', hfile'⟩ := exists_readEntries sections_readerKept
  have hreduced : ∀ a, sectionEntries (Toml.tables readerKept) a =
      declared a (inForce (sectionEntries (Toml.tables readerReplaced) a)) := by
    intro a
    cases a <;> rfl
  have hnames : ∀ a, ∀ key ∈ Entries.keys (sectionEntries (Toml.tables readerReplaced) a),
      key ∉ [kindName, referencesName, entriesName] := by
    intro a
    cases a <;> decide
  have hnone : ∀ a, ∀ e ∈ sectionEntries (Toml.tables readerReplaced) a, ¬Refused e := fun a e he =>
    not_refused_of_notMem (hnames a e.1 (List.mem_map_of_mem he))
  obtain ⟨log, log', s, s', hload, hload', -, hsame, -⟩ :=
    load_declared (by decide) hfile hfile' hreduced
  obtain ⟨hfields, hdoes⟩ := hsame hnone
  exact ⟨files, files', log, log', s, s', hfile, hfile', hload, hload', hfields,
    fun store => (hdoes store).1⟩

/-- Names that are no fields may have an effect: with a value in the place of what reads the
source, that is not read any more. -/
theorem not_forall_load_declared :
    ¬ ∀ (files files' : Files) (p : Path) (file reduced : Entries Value), '\x00' ∉ p.toText →
      readEntries files p = some file → readEntries files' p = some reduced →
      (∀ a, sectionEntries reduced a = declared a (sectionEntries file a)) →
      ∃ log log' s s', load files p = (log, .ok s) ∧ load files' p = (log', .ok s') ∧
        (∀ a, s.fields a = s'.fields a) ∧
        ∀ store : Files, s.snippets.readSource store = s'.snippets.readSource store ∧
          s.snippets.tableKey store = s'.snippets.tableKey store := by
  intro h
  obtain ⟨files, hfile⟩ := exists_readEntries sections_readerReplaced
  obtain ⟨files', hfile'⟩ := exists_readEntries sections_readerKept
  obtain ⟨log, log', s, s', hload, hload', -, hdoes⟩ :=
    h files files' _ _ _ (by decide) hfile hfile' fun a => by cases a <;> rfl
  obtain ⟨_, hloaded⟩ := load_of_readEntries (by decide) hfile
  obtain ⟨_, hloaded'⟩ := load_of_readEntries (by decide) hfile'
  cases hload.symm.trans hloaded
  cases hload'.symm.trans hloaded'
  exact nomatch (hdoes {}).1

end Settings

end Shorthand
