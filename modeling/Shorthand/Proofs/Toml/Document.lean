import Mathlib.Data.List.TakeDrop
import Mathlib.Tactic.Lemma
import Mathlib.Tactic.SplitIfs
import Shorthand.Proofs.Entries.Definitions
import Shorthand.Proofs.Toml.Scalar

set_option autoImplicit false
set_option relaxedAutoImplicit false

/-!
# Documents of flat tables are read back

A document whose entries are all tables, with nothing in them but values on one line, is written
as one header for each table with a line for each entry, and is read back as it was. The names are
such that they need no quotes.

The reader spends an amount for every line, which it never runs out of, since every line takes a
character. What is read from a text with any amount that is larger than the text is long is
therefore said backwards, from the last line to the first: a line followed by what is read from
the rest.

## Main definitions

* `Shorthand.Toml.Reads` — a tree under construction, continued by a text.
* `Shorthand.Toml.Flat`, `Shorthand.Toml.Sections` — the tables and documents in question.
* `Shorthand.Toml.Tree.withTable` — the tree with one more table, under its own header.

## Main results

* `Shorthand.Toml.Reads.header`, `Shorthand.Toml.Reads.pair` — a header and an entry, before other
  lines.
* `Shorthand.Toml.Reads.table` — a table, before other lines.
* `Shorthand.Toml.read_write` — a document is read back: its tables, in their order.
-/

namespace Shorthand.Toml

variable {t out : Tree} {rest name k : Text} {v : Value} {es : Entries Value}

/-! ## Names -/

/-- A name that needs no quotes. -/
structure Bare (k : Text) : Prop where
  ne_nil : k ≠ []
  bare : ∀ c ∈ k, isBareKeyChar c = true

/-- Looking at its characters decides whether a name needs quotes. -/
instance (k : Text) : Decidable (Bare k) :=
  decidable_of_iff (k ≠ [] ∧ k.all isBareKeyChar = true)
    ⟨fun h => ⟨h.1, List.all_eq_true.mp h.2⟩, fun h => ⟨h.ne_nil, List.all_eq_true.mpr h.bare⟩⟩

/-- A bare name is written as it is. -/
lemma Bare.writeKey_eq (h : Bare k) : writeKey k = k := by
  rw [writeKey, if_pos]
  simpa [h.ne_nil] using h.bare

/-- The name of a table that lies in no other. -/
lemma Bare.subName_nil (h : Bare k) : subName [] k = k := by
  simp [subName, h.writeKey_eq]

/-- A character of a bare name is none that means anything on a line. -/
lemma ne_of_isBareKeyChar {c d : Char} (hc : isBareKeyChar c = true)
    (hd : isBareKeyChar d = false) :
    c ≠ d := by
  rintro rfl
  simp [hd] at hc

/-- The characters at the start of a bare name. -/
lemma Bare.exists_eq_cons (h : Bare k) :
    ∃ c cs, k = c :: cs ∧ ∀ d, isBareKeyChar d = false → c ≠ d := by
  cases k with
  | nil => exact absurd rfl h.ne_nil
  | cons c cs =>
    exact ⟨c, cs, rfl, fun _ hd => ne_of_isBareKeyChar (h.bare c List.mem_cons_self) hd⟩

/-- A bare name is read up to where it ends, with the spaces after it. -/
lemma Bare.key_append (h : Bare k) {s : Text} (hs : ∀ c ∈ s.head?, isBareKeyChar c = false)
    (hpoint : (skipSpaces s).head? ≠ some '.') : key (k ++ s) = some ([k], skipSpaces s) := by
  have htake : (k ++ s).takeWhile isBareKeyChar = k := by
    rw [List.takeWhile_append_of_pos h.bare]
    cases s <;> simp_all
  have hdrop : (k ++ s).dropWhile isBareKeyChar = s := by
    rw [List.dropWhile_append_of_pos h.bare]
    cases s <;> simp_all
  have hpart : keyPart (k ++ s) = some (k, s) := by
    obtain ⟨c, cs, rfl, hne⟩ := h.exists_eq_cons
    have hquote := hne '"' (by decide)
    have hapostrophe := hne '\'' (by decide)
    rw [List.cons_append] at htake hdrop ⊢
    simp [keyPart, hquote, hapostrophe, htake, hdrop]
  rw [key, keyFrom, hpart, Option.bind_some]
  simp only
  split
  · rename_i r hr
    exact absurd (by rw [hr]; rfl) hpoint
  · rfl

/-! ## Lines -/

/-- A tree under construction, continued by the lines of a text. -/
def Reads (t : Tree) (s : Text) (out : Tree) : Prop :=
  ∀ fuel, s.length < fuel → readLines fuel t s = some out

/-- Nothing is left to read. -/
lemma Reads.nil : Reads t [] t := by
  intro fuel hfuel
  obtain ⟨fuel, rfl⟩ : ∃ k, fuel = k + 1 := ⟨fuel - 1, by simp at hfuel; omega⟩
  rfl

/-- A line, before other lines. -/
lemma Reads.line {t' : Tree} {s : Text} (hs : statement t (skipSpaces s) = some (t', '\n' :: rest))
    (hlength : rest.length < s.length) (h : Reads t' rest out) : Reads t s out := by
  intro fuel hfuel
  obtain ⟨fuel, rfl⟩ : ∃ k, fuel = k + 1 := ⟨fuel - 1, by omega⟩
  rw [readLines, hs]
  exact h fuel (by omega)

/-- An empty line, before other lines. -/
lemma Reads.blank (h : Reads t rest out) : Reads t ('\n' :: rest) out :=
  Reads.line (show statement t ('\n' :: rest) = some (t, '\n' :: rest) from rfl)
    (Nat.lt_succ_self _) h

/-! ## Trees -/

/-- A tree that only plain headers and plain keys have built. -/
structure Tree.Plain (t : Tree) : Prop where
  sealed_nil : t.sealed = []
  pending_nil : t.pending = []
  mem_keys : ∀ name, [name] ∈ t.declared → name ∈ Entries.keys t.root

/-- The tree with a table under a header of its own, which is the last one. -/
def Tree.withTable (t : Tree) (name : Text) (es : Entries Value) : Tree :=
  { t with
    root := Entries.insert t.root name (.table es), header := [name]
    declared := [name] :: t.declared }

/-- A tree stays plain with one more table. -/
lemma Tree.Plain.withTable (h : t.Plain) (name : Text) (es : Entries Value) :
    (t.withTable name es).Plain where
  sealed_nil := h.sealed_nil
  pending_nil := h.pending_nil
  mem_keys other hmem := by
    rw [Tree.withTable, Entries.keys_insert]
    rcases List.mem_cons.mp hmem with heq | hmem
    · obtain rfl : other = name := by simpa using heq
      split_ifs <;> simp_all
    · have hroot := h.mem_keys other hmem
      split_ifs <;> simp [hroot]

/-- A header opens an empty table under a new name. -/
lemma Tree.Plain.openTable (h : t.Plain) (hname : name ∉ Entries.keys t.root) :
    t.closePending.openTable [name] = some (t.withTable name []) := by
  have hfind : Entries.find? t.root name = none := Entries.find?_eq_none_iff.mpr hname
  have hdeclared : [name] ∉ t.declared := fun hmem => hname (h.mem_keys name hmem)
  simp [Tree.openTable, Tree.closePending, h.pending_nil, h.sealed_nil, Tree.isSealed, hdeclared,
    within, hfind, Tree.withTable]

/-- An entry goes to the table of the last header. -/
lemma Tree.Plain.assign (h : t.Plain) (hk : k ∉ Entries.keys es) (v : Value) (hv : Simple v) :
    (t.withTable name es).assign [k] v = some (t.withTable name (Entries.insert es k v)) := by
  have hroot : Entries.find? (Entries.insert t.root name (.table es)) name = some (.table es) := by
    rw [Entries.find?_insert, if_pos rfl]
  have hhas : Entries.has es k = false := by
    rw [Entries.has, Entries.find?_eq_none_iff.mpr hk, Option.isSome_none]
  have hinline : Tree.isInline v = false := by cases hv <;> rfl
  simp [Tree.assign, Tree.withTable, Tree.tablePrefixes, Tree.isSealed, h.sealed_nil, within, hroot,
    Tree.define, hhas, hinline, Entries.insert_insert]

/-! ## Tables -/

/-- There are no spaces before a character that is none. -/
lemma skipSpaces_cons {c : Char} (hc : isSpace c = false) (s : Text) :
    skipSpaces (c :: s) = c :: s := by
  simp [skipSpaces, hc]

/-- There are no spaces before a bare name. -/
lemma Bare.skipSpaces_append (h : Bare k) (s : Text) : skipSpaces (k ++ s) = k ++ s := by
  obtain ⟨c, cs, rfl, hne⟩ := h.exists_eq_cons
  have hspace := hne ' ' (by decide)
  have htab := hne '\t' (by decide)
  exact skipSpaces_cons (by simp [isSpace, hspace, htab]) (cs ++ s)

/-- **A header opens a table,** and the lines after it are about that table. -/
theorem Reads.header (ht : t.Plain) (hb : Bare name) (hname : name ∉ Entries.keys t.root)
    (h : Reads (t.withTable name []) rest out) :
    Reads t ('[' :: (name ++ ']' :: '\n' :: rest)) out := by
  have hkey : key (name ++ ']' :: '\n' :: rest) = some ([name], ']' :: '\n' :: rest) :=
    hb.key_append (by simp; decide) (by simp [skipSpaces, isSpace])
  have hline : headerLine t ('[' :: (name ++ ']' :: '\n' :: rest)) =
      some (t.withTable name [], '\n' :: rest) := by
    have hskip := hb.skipSpaces_append (']' :: '\n' :: rest)
    obtain ⟨c, cs, rfl, hne⟩ := hb.exists_eq_cons
    have hbracket := hne '[' (by decide)
    rw [List.cons_append] at hkey hskip ⊢
    simp [headerLine, hbracket, hskip, hkey, ht.openTable hname, expect]
  refine Reads.line ?_ (by simp; omega) h
  rw [skipSpaces_cons (by decide)]
  simp [statement, hline, skipSpaces, isSpace]

/-- **An entry goes to the table of the last header.** -/
theorem Reads.pair (ht : t.Plain) (hb : Bare k) (hk : k ∉ Entries.keys es) (hv : Simple v)
    (h : Reads (t.withTable name (Entries.insert es k v)) rest out) :
    Reads (t.withTable name es) (k ++ ' ' :: '=' :: ' ' :: (writeInline 0 v ++ '\n' :: rest))
      out := by
  have hkey : key (k ++ ' ' :: '=' :: ' ' :: (writeInline 0 v ++ '\n' :: rest)) =
      some ([k], '=' :: ' ' :: (writeInline 0 v ++ '\n' :: rest)) :=
    hb.key_append (by simp; decide) (by simp [skipSpaces, isSpace])
  have hvalue := hv.value?_written rest
  have hskip : skipSpaces (' ' :: (writeInline 0 v ++ '\n' :: rest)) =
      writeInline 0 v ++ '\n' :: rest := by
    obtain ⟨c, cs, hc, -, -, hspace⟩ := hv.exists_written_eq_cons
    rw [hc]
    exact skipSpaces_cons hspace (cs ++ '\n' :: rest)
  have hline : pairLine (t.withTable name es)
      (k ++ ' ' :: '=' :: ' ' :: (writeInline 0 v ++ '\n' :: rest)) =
        some (t.withTable name (Entries.insert es k v), '\n' :: rest) := by
    simp [pairLine, hkey, expect, hskip, hvalue, ht.assign hk v hv]
  refine Reads.line ?_ (by simp; omega) h
  rw [hb.skipSpaces_append]
  obtain ⟨c, cs, rfl, hne⟩ := hb.exists_eq_cons
  have hbreak := hne '\n' (by decide)
  have hcomment := hne '#' (by decide)
  have hbracket := hne '[' (by decide)
  rw [List.cons_append] at hline ⊢
  simp [statement, hbreak, hcomment, hbracket, hline, skipSpaces, isSpace]

/-- Entries that take a line each. -/
structure Flat (es : Entries Value) : Prop where
  bare : ∀ e ∈ es, Bare e.1
  simple : ∀ e ∈ es, Simple e.2
  nodup : (Entries.keys es).Nodup

/-- Values on one line under names that need no quotes. -/
lemma Flat.of_names (names : List Text) (hkeys : Entries.keys es = names)
    (hnames : (∀ k ∈ names, Bare k) ∧ names.Nodup) (hsimple : ∀ e ∈ es, Simple e.2) : Flat es where
  bare e he := hnames.1 e.1 (hkeys ▸ List.mem_map_of_mem he)
  simple := hsimple
  nodup := hkeys ▸ hnames.2

/-- A value on one line stands after an equals sign. -/
lemma Simple.isPlain (h : Simple v) : isPlain v = true := by
  cases h <;> rfl

/-- Entries that take a line each are written one after the other. -/
lemma writePlain_cons (hb : Bare k) (hv : Simple v) :
    writePlain ((k, v) :: es) =
      k ++ ' ' :: '=' :: ' ' :: (writeInline 0 v ++ '\n' :: writePlain es) := by
  simp [writePlain, hv.isPlain, hb.writeKey_eq]

/-- The entries of a table, before other lines.

**Proof sketch.** Induction on the entries that are still to be read, for any that were read
before. -/
lemma Reads.pairs {done : Entries Value} (ht : t.Plain) (hb : ∀ e ∈ es, Bare e.1)
    (hv : ∀ e ∈ es, Simple e.2) (hn : (Entries.keys (done ++ es)).Nodup)
    (h : Reads (t.withTable name (done ++ es)) rest out) :
    Reads (t.withTable name done) (writePlain es ++ rest) out := by
  induction es generalizing done with
  | nil => simpa [writePlain] using h
  | cons e es ih =>
    obtain ⟨k, v⟩ := e
    obtain ⟨hbk, hbes⟩ := List.forall_mem_cons.mp hb
    obtain ⟨hvk, hves⟩ := List.forall_mem_cons.mp hv
    have hk : k ∉ Entries.keys done := by
      intro hmem
      rw [Entries.keys, List.map_append, List.nodup_append] at hn
      exact hn.2.2 k hmem k (by simp) rfl
    have hrest : Reads (t.withTable name (Entries.insert done k v))
        (writePlain es ++ rest) out := by
      rw [Entries.insert_of_notMem hk]
      exact ih hbes hves (by simpa using hn) (by simpa using h)
    rw [writePlain_cons hbk hvk]
    simpa using Reads.pair ht hbk hk hvk hrest

/-- There are no tables in a table of values on one line. -/
lemma writeSubtables_eq_nil (h : ∀ e ∈ es, Simple e.2) (after : Bool) :
    writeSubtables name after es = [] := by
  induction es with
  | nil => rw [writeSubtables]
  | cons e es ih =>
    obtain ⟨k, v⟩ := e
    obtain ⟨hv, hes⟩ := List.forall_mem_cons.mp h
    cases hv <;> simpa [writeSubtables] using ih hes

/-- A table of entries that take a line each is written as a header and these lines. -/
lemma Flat.writeTable_eq (h : Flat es) (hname : Bare name) :
    writeTable name false es = '[' :: (name ++ ']' :: '\n' :: writePlain es) := by
  have hplain : es.all (fun e => Toml.isPlain e.2) = true :=
    List.all_eq_true.mpr fun e he => (h.simple e he).isPlain
  rw [writeTable, writeSubtables_eq_nil h.simple, tableHeader, hplain]
  simp [writeHeader, hname.ne_nil]

/-- **A table is read back,** before other lines. -/
theorem Reads.table (ht : t.Plain) (hb : Bare name) (hname : name ∉ Entries.keys t.root)
    (hes : Flat es) (h : Reads (t.withTable name es) rest out) :
    Reads t (writeTable name false es ++ rest) out := by
  rw [hes.writeTable_eq hb]
  simpa using Reads.header ht hb hname (Reads.pairs ht hes.bare hes.simple hes.nodup h)

/-! ## Documents -/

/-- The sections of a document: tables of entries that take a line each. -/
structure Sections (sections : Entries (Entries Value)) : Prop where
  bare : ∀ s ∈ sections, Bare s.1
  flat : ∀ s ∈ sections, Flat s.2
  nodup : (Entries.keys sections).Nodup

/-- The tables of sections. -/
def tables (sections : Entries (Entries Value)) : Entries Value :=
  sections.map fun (name, es) => (name, .table es)

/-- A section is written as a table, after an empty line if there is anything before it. -/
lemma writeSubtables_tables_cons (hb : Bare name) (sections : Entries (Entries Value))
    (after : Bool) :
    writeSubtables [] after (tables ((name, es) :: sections)) =
      (if after then ['\n'] else []) ++ writeTable name false es ++
        writeSubtables [] true (tables sections) := by
  simp [tables, writeSubtables, hb.subName_nil]

/-- All sections are read back into a tree that has none of them yet.

**Proof sketch.** Induction on the sections, for any tree that those before have built. -/
lemma exists_reads_sections {sections : Entries (Entries Value)} (ht : t.Plain)
    (hb : ∀ s ∈ sections, Bare s.1) (hf : ∀ s ∈ sections, Flat s.2)
    (hn : (Entries.keys t.root ++ Entries.keys sections).Nodup) (after : Bool) :
    ∃ out : Tree, Reads t (writeSubtables [] after (tables sections)) out ∧
      out.root = t.root ++ tables sections := by
  induction sections generalizing t after with
  | nil => exact ⟨t, by simpa [tables, writeSubtables] using Reads.nil, by simp [tables]⟩
  | cons s sections ih =>
    obtain ⟨name, es⟩ := s
    obtain ⟨hbname, hbs⟩ := List.forall_mem_cons.mp hb
    obtain ⟨hfes, hfs⟩ := List.forall_mem_cons.mp hf
    have hname : name ∉ Entries.keys t.root := fun hmem =>
      (List.nodup_append.mp hn).2.2 name hmem name (by simp [Entries.keys]) rfl
    have hroot : (t.withTable name es).root = t.root ++ [(name, .table es)] :=
      Entries.insert_of_notMem hname _
    obtain ⟨out, hreads, hout⟩ := ih (ht.withTable name es) hbs hfs
      (by rw [hroot]; simpa [Entries.keys] using hn) true
    refine ⟨out, ?_, by simp [hout, hroot, tables]⟩
    have htable := Reads.table ht hbname hname hfes hreads
    rw [writeSubtables_tables_cons hbname]
    cases after with
    | false => exact htable
    | true => exact htable.blank

/-! ## Carriage returns -/

/-- A text without carriage returns has no pairs to join. -/
lemma joinReturnPairs_eq_self {s : Text} (h : '\r' ∉ s) : Text.joinReturnPairs s = s := by
  induction s with
  | nil => rfl
  | cons c s ih =>
    obtain ⟨hc, hs⟩ : '\r' ≠ c ∧ '\r' ∉ s := by simpa using h
    simp [Text.joinReturnPairs, hc.symm, ih hs]

/-- No carriage return is written for a character. -/
lemma return_notMem_writeChar (c : Char) : '\r' ∉ writeChar c := by
  have hall : ∀ n < 0x80, '\r' ∉ Text.hex 4 n := by decide +kernel
  rw [writeChar]
  split_ifs with _ _ _ _ _ hr hcontrol
  · decide
  · decide
  · decide
  · decide
  · decide
  · decide
  · simpa using hall c.toNat (toNat_lt_of_isControl hcontrol)
  · simpa using Ne.symm hr

/-- No carriage return is written for a value on one line. -/
lemma Simple.return_notMem (h : Simple v) : '\r' ∉ writeInline 0 v := by
  cases h with
  | text s => simp [writeInline, writeString, return_notMem_writeChar]
  | bool b => cases b <;> decide
  | int i hi =>
    have hdigits : ∀ n, '\r' ∉ Nat.toDigits 10 n := fun n hmem =>
      absurd (isDigit_toDigits n _ hmem) (by decide)
    cases i with
    | ofNat n => exact hdigits n
    | negSucc n => simpa [writeInline, Text.ofInt, Text.ofNat] using hdigits (n + 1)

/-- There is no carriage return in a bare name. -/
lemma Bare.return_notMem (h : Bare k) : '\r' ∉ k := fun hmem =>
  absurd (h.bare _ hmem) (by decide)

/-- There is no carriage return in the lines of a table. -/
lemma return_notMem_writePlain (hb : ∀ e ∈ es, Bare e.1) (hv : ∀ e ∈ es, Simple e.2) :
    '\r' ∉ writePlain es := by
  induction es with
  | nil => simp [writePlain]
  | cons e es ih =>
    obtain ⟨hbk, hbes⟩ := List.forall_mem_cons.mp hb
    obtain ⟨hvk, hves⟩ := List.forall_mem_cons.mp hv
    rw [writePlain_cons hbk hvk]
    simp [hbk.return_notMem, hvk.return_notMem, ih hbes hves]

/-- There is no carriage return in a document. -/
lemma return_notMem_writeSubtables {sections : Entries (Entries Value)}
    (hb : ∀ s ∈ sections, Bare s.1) (hf : ∀ s ∈ sections, Flat s.2) (after : Bool) :
    '\r' ∉ writeSubtables [] after (tables sections) := by
  induction sections generalizing after with
  | nil => simp [tables, writeSubtables]
  | cons s sections ih =>
    obtain ⟨name, es⟩ := s
    obtain ⟨hbname, hbs⟩ := List.forall_mem_cons.mp hb
    obtain ⟨hfes, hfs⟩ := List.forall_mem_cons.mp hf
    have hlines := return_notMem_writePlain hfes.bare hfes.simple
    rw [writeSubtables_tables_cons hbname, hfes.writeTable_eq hbname]
    cases after <;> simp [hbname.return_notMem, hlines, ih hbs hfs true]

/-- **A document is read back:** what is written of sections is read as their tables, in their
order.

**Proof sketch.** What is written has no carriage return, so that the reader takes it as it is
(`joinReturnPairs_eq_self`). The empty tree has none of the sections yet, and its root with all of
them is their tables (`exists_reads_sections`). -/
theorem read_write {sections : Entries (Entries Value)} (h : Sections sections) :
    read (write (tables sections)) = some (tables sections) := by
  have hwrite : write (tables sections) = writeSubtables [] false (tables sections) := by
    have hplain : writePlain (tables sections) = [] := by
      rw [writePlain, tables, List.filter_map,
        List.filter_eq_nil_iff.mpr fun _ _ => by simp [isPlain]]
      rfl
    simp [write, writeTable, tableHeader, hplain]
  have hempty : Tree.Plain {} := ⟨rfl, rfl, by simp⟩
  obtain ⟨out, hreads, hout⟩ := exists_reads_sections hempty h.bare h.flat
    (by simpa [Entries.keys] using h.nodup) false
  rw [read, joinReturnPairs_eq_self (hwrite ▸ return_notMem_writeSubtables h.bare h.flat false),
    hwrite]
  simp [hreads _ (Nat.lt_succ_self _), hout]

end Shorthand.Toml
