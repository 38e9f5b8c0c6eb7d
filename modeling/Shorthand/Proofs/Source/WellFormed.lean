import Shorthand.Proofs.Source.Compiled
import Shorthand.Proofs.Source.Meaning
import Shorthand.Proofs.Text.Trim

set_option autoImplicit false
set_option relaxedAutoImplicit false

/-!
# What can be in a table

Whatever a source says and however it is divided, what is read from it is well formed: a trigger
can be typed and is not cut by any of the dividers, an expansion is what it says of itself, and
what is reported is a trimmed record.

The dividers may be anything that settings can hold. A table can be read with blanks between its
records; blanks between a trigger and its expansion define nothing.

## Main definitions

* `Shorthand.Divider.OccursIn` — a divider occurs in a text.
* `Shorthand.Source.WellFormedEntry` — an entry of a table can stand in it.
* `Shorthand.Source.Reading.WellFormed` — so can all entries, and the diagnostics are those of
  records.

## Main results

* `Shorthand.Divider.not_occursIn_of_split` — a divider occurs in none of the pieces that it
  separates.
* `Shorthand.Source.wellFormed_parse` — what is read from a source is well formed.
-/

namespace Shorthand

open Text

/-! ## Dividers in texts -/

/-- The divider occurs in the text: as a part of it, or as one blank if it stands for blanks. -/
def Divider.OccursIn : Divider → Text → Prop
  | .text t, s => t <:+: s
  | .blanks, s => ∃ c ∈ s, isBlank c
  | .unusable, _ => False

namespace Divider

variable {d : Divider} {s t : Text} {pieces : List Text}

/-- What occurs in a part of a text occurs in the text. -/
lemma OccursIn.of_infix (h : d.OccursIn s) (hst : s <:+: t) : d.OccursIn t := by
  cases d with
  | text divider => exact List.IsInfix.trans h hst
  | blanks =>
    obtain ⟨c, hc, hblank⟩ := h
    exact ⟨c, hst.subset hc, hblank⟩
  | unusable => exact h

/-- There is no blank in a word. -/
lemma not_isBlank_of_mem_wordsFrom {word : Text} (hword : ∀ c ∈ word, ¬isBlank c) :
    ∀ w ∈ wordsFrom word s, ∀ c ∈ w, ¬isBlank c := by
  have hreverse {word : Text} (h : ∀ c ∈ word, ¬isBlank c) : ∀ c ∈ word.reverse, ¬isBlank c :=
    fun c hc => h c (List.mem_reverse.mp hc)
  induction s generalizing word with
  | nil =>
    rw [wordsFrom]
    split_ifs
    · exact List.forall_mem_nil _
    · exact List.forall_mem_singleton.mpr (hreverse hword)
  | cons c rest ih =>
    have hrest := ih (List.forall_mem_nil _)
    rw [wordsFrom]
    split_ifs with hblank
    · exact hrest
    · exact List.forall_mem_cons.mpr ⟨hreverse hword, hrest⟩
    · exact ih (List.forall_mem_cons.mpr ⟨hblank, hword⟩)

/-- **A divider occurs in none of the pieces that it separates.** -/
theorem not_occursIn_of_split (h : d.split s = .ok pieces) : ∀ p ∈ pieces, ¬d.OccursIn p := by
  cases d with
  | text divider =>
    rw [split] at h
    split at h
    · cases h
    · rename_i hempty
      cases h
      have hne : divider ≠ [] := fun hnil => hempty (List.isEmpty_iff.mpr hnil)
      exact Splits.not_infix hne (splits_splitOn hne s)
  | blanks =>
    cases h
    rintro p hp ⟨c, hc, hblank⟩
    exact not_isBlank_of_mem_wordsFrom (List.forall_mem_nil _) p hp c hc hblank
  | unusable => cases h

end Divider

namespace Source

variable {between parts : Divider} {record trigger raw : Text} {index : ℕ}

/-! ## Entries and records -/

/-- An entry can stand in a table that was read with the divider `between` its records and the
divider `parts` between a trigger and its expansion. -/
structure WellFormedEntry (between parts : Divider) (trigger : Text) (e : Expansion) : Prop where
  named : trigger ≠ []
  /-- The trigger does not start with a blank. -/
  bare : ∀ c ∈ trigger.head?, ¬isBlank c
  undivided : ¬between.OccursIn trigger
  unparted : ¬parts.OccursIn trigger
  /-- The cursor rests in the expansion. -/
  placed : e.Placed
  /-- The expansion says truly whether it has a line break. -/
  broken : e.hasBreak = true ↔ '\n' ∈ e.text

/-- A text can be a record of a source with the divider `between` its records. -/
structure WellFormedRecord (between : Divider) (record : Text) : Prop where
  nonempty : record ≠ []
  bare : Bare isBlank record
  undivided : ¬between.OccursIn record

/-- The pieces of a source that are not blank give records. -/
lemma wellFormedRecord_of_mem {s : Text} {pieces : List Text} (h : between.split s = .ok pieces)
    (hmem : (index, record) ∈ records pieces) : WellFormedRecord between record := by
  obtain ⟨hrecord, hne⟩ := mem_records.mp hmem
  obtain ⟨piece, hpiece, rfl⟩ := List.mem_map.mp (List.mem_of_getElem? hrecord)
  obtain ⟨before, after, hpadded, -, -⟩ := exists_padding isBlank piece
  refine ⟨hne, bare_trimBoth isBlank piece, fun hoccurs => ?_⟩
  exact Divider.not_occursIn_of_split h piece hpiece
    (hoccurs.of_infix ⟨before, after, hpadded.symm⟩)

/-- A trigger stands at the front of its record, where the divider that parts it does not occur. -/
lemma trigger_of_outcome (hrecord : record ≠ [])
    (h : outcome parts record = .ok (.defines trigger raw)) :
    trigger ≠ [] ∧ trigger <+: record ∧ ¬parts.OccursIn trigger := by
  cases parts with
  | text divider =>
    rw [outcome] at h
    split at h
    · cases h
    · rename_i hempty
      have hne : divider ≠ [] := fun hnil => hempty (List.isEmpty_iff.mpr hnil)
      have hsaid : saying divider record = some (.defines trigger raw) := by
        rw [saying, if_neg hrecord, Except.ok.inj h]
      cases hsaid ▸ says_saying divider record with
      | defines htrigger hfirst =>
        refine ⟨htrigger, ⟨divider ++ raw, (List.append_assoc _ _ _).symm⟩, ?_⟩
        rw [List.append_assoc] at hfirst
        exact hfirst.not_infix hne
  | blanks =>
    rw [outcome] at h
    split at h
    all_goals cases h
  | unusable => cases h

/-- **What a record defines is a well formed entry.** -/
theorem wellFormedEntry_of_outcome (hrecord : WellFormedRecord between record)
    (h : outcome parts record = .ok (.defines trigger raw)) :
    WellFormedEntry between parts trigger (Escape.compile raw) := by
  obtain ⟨hne, ⟨rest, rfl⟩, hunparted⟩ := trigger_of_outcome hrecord.nonempty h
  obtain ⟨c, trigger, rfl⟩ := List.exists_cons_of_ne_nil hne
  refine ⟨hne, hrecord.bare.head, fun hoccurs => ?_, hunparted, Escape.placed_compile raw,
    Escape.hasBreak_compile raw⟩
  exact hrecord.undivided (hoccurs.of_infix (List.prefix_append _ _).isInfix)

/-! ## Readings -/

/-- What was read can stand in a table: its entries and the records that are reported can, no
trigger is repeated, and records are reported in order. -/
structure Reading.WellFormed (between parts : Divider) (r : Reading) : Prop where
  entries : ∀ e ∈ r.snippets, WellFormedEntry between parts e.1 e.2
  distinct : (Entries.keys r.snippets).Nodup
  records : ∀ x ∈ r.diagnostics, WellFormedRecord between x.record
  ordered : r.diagnostics.Pairwise (·.index < ·.index)

/-- A reading is well formed so far, and what is still to come are records behind those that it
reports. -/
structure Reading.WellFormedSoFar (between parts : Divider) (rest : List (ℕ × Text)) (r : Reading) :
    Prop where
  read : r.WellFormed between parts
  records : ∀ x ∈ rest, WellFormedRecord between x.2
  ordered : rest.Pairwise (·.1 < ·.1)
  behind : ∀ x ∈ r.diagnostics, ∀ y ∈ rest, x.index < y.1

/-- One more record keeps that. -/
lemma Reading.WellFormedSoFar.add {rest : List (ℕ × Text)} {r : Reading} {o : Outcome}
    (h : r.WellFormedSoFar between parts ((index, record) :: rest))
    (ho : outcome parts record = .ok o) :
    (r.add index record o).WellFormedSoFar between parts rest := by
  obtain ⟨hrecord, hrecords⟩ := List.forall_mem_cons.mp h.records
  obtain ⟨hlater, hordered⟩ := List.pairwise_cons.mp h.ordered
  have hbehind : ∀ x ∈ r.diagnostics, ∀ y ∈ rest, x.index < y.1 := fun x hx y hy =>
    h.behind x hx y (List.mem_cons_of_mem _ hy)
  cases o with
  | rejected reason =>
    refine ⟨⟨h.read.entries, h.read.distinct, ?_, ?_⟩, hrecords, hordered, ?_⟩
    · exact List.forall_mem_append.mpr ⟨h.read.records, List.forall_mem_singleton.mpr hrecord⟩
    · refine List.pairwise_append.mpr
        ⟨h.read.ordered, List.pairwise_singleton _ _, fun x hx y hy => ?_⟩
      rw [List.mem_singleton.mp hy]
      exact h.behind x hx _ List.mem_cons_self
    · exact List.forall_mem_append.mpr ⟨hbehind, List.forall_mem_singleton.mpr hlater⟩
  | defines trigger raw =>
    refine ⟨⟨fun e he => ?_, Entries.nodup_keys_insert h.read.distinct _ _, h.read.records,
      h.read.ordered⟩, hrecords, hordered, hbehind⟩
    rcases Entries.eq_or_mem_of_mem_insert he with rfl | he
    · exact wellFormedEntry_of_outcome hrecord ho
    · exact h.read.entries e he

/-- **What is read from a source is well formed.**

**Proof sketch.** The divider between records occurs in no piece, so it occurs in no record
either, and a record has bare ends because it is trimmed. Induction on the records: a trigger
stands at the front of its record and before the first divider there, and the places of records
only grow. -/
theorem wellFormed_parse {source : Text} {r : Reading} (h : parse between parts source = .ok r) :
    r.WellFormed between.betweenRecords parts := by
  unfold parse at h
  cases hs : between.betweenRecords.split source with
  | error f =>
    rw [hs] at h
    exact nomatch h
  | ok pieces =>
    rw [hs] at h
    have hstart : Reading.WellFormedSoFar between.betweenRecords parts (records pieces) {} := by
      refine ⟨⟨List.forall_mem_nil _, List.nodup_nil, List.forall_mem_nil _, List.Pairwise.nil⟩,
        fun x hx => wellFormedRecord_of_mem hs hx, pairwise_records pieces, List.forall_mem_nil _⟩
    exact (gather_induction (fun _ _ _ _ _ hr ho => hr.add ho) _ hstart h).read

end Source

end Shorthand
