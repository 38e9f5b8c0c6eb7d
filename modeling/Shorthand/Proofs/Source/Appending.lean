import Shorthand.Proofs.Entries.Updated
import Shorthand.Proofs.Source.Meaning

set_option autoImplicit false
set_option relaxedAutoImplicit false

/-!
# Sources one after the other

A source can be continued behind another divider. The records that follow add their own meaning
and change nothing in the reading of those before. They count on from the pieces of the first
source, blank ones included, so the places of what is reported there move up by their number.

The divider between the two sources does not always separate them there: behind a source that ends
with a part of the divider, an occurrence may begin in that end and take only the rest from the
divider.

## Main definitions

* `Shorthand.Diagnostic.later` — a diagnostic whose record comes so many pieces later.
* `Shorthand.Source.Malformed`, `Shorthand.Source.withoutMalformed` — malformed records, and a
  source without them.

## Main results

* `Shorthand.Source.records_append` — the records of pieces one after the other.
* `Shorthand.Source.readingOf_append` — the reading of records one after the other.
* `Shorthand.Source.parse_append` — reading a source that was continued.
* `Shorthand.Source.snippets_withoutMalformed` — malformed records make no difference to a table.
-/

namespace Shorthand

open Text

/-- The diagnostic of a record that comes `n` pieces later. -/
def Diagnostic.later (n : ℕ) (x : Diagnostic) : Diagnostic := { x with index := x.index + n }

namespace Source

variable {between parts : Text}

/-! ## Records one after the other -/

/-- The places of records count on from the pieces before. -/
lemma records_append (first second : List Text) :
    records (first ++ second) =
      records first ++ (records second).map fun x => (x.1 + first.length, x.2) := by
  have hplaces : second.zipIdx (0 + first.length) =
      second.zipIdx.map fun x => (x.1, x.2 + first.length) := by
    rw [Nat.add_comm, ← List.map_snd_add_zipIdx_eq_zipIdx]
    rfl
  simp only [records, List.zipIdx_append, hplaces, List.map_append, List.filter_append,
    List.filter_map, List.map_map]
  rfl

/-- Records that come later are rejected as they are, only later. -/
lemma rejected_map_later (n : ℕ) (records : List (ℕ × Text)) :
    rejected parts (records.map fun x => (x.1 + n, x.2)) =
      (rejected parts records).map (.later n) := by
  simp only [rejected]
  rw [List.filterMap_map, List.map_filterMap]
  congr 1
  funext x
  simp only [Function.comp_apply, Option.map_map]
  rfl

/-- They define what they define. -/
lemma defined_map_later (n : ℕ) (records : List (ℕ × Text)) :
    defined parts (records.map fun x => (x.1 + n, x.2)) = defined parts records := by
  simp only [defined]
  rw [List.filterMap_map]
  rfl

/-- **The reading of records one after the other:** the second table updates the first, and the
diagnostics of the second follow those of the first. -/
theorem readingOf_append (first second : List Text) :
    readingOf parts (records (first ++ second)) =
      { snippets := Entries.updated (readingOf parts (records first)).snippets
          (readingOf parts (records second)).snippets
        diagnostics := (readingOf parts (records first)).diagnostics ++
          (readingOf parts (records second)).diagnostics.map (.later first.length) } := by
  have hdefined : defined parts (records (first ++ second)) =
      defined parts (records first) ++ defined parts (records second) := by
    rw [records_append, ← defined_map_later first.length (records second)]
    exact List.filterMap_append
  have hrejected : rejected parts (records (first ++ second)) =
      rejected parts (records first) ++ (rejected parts (records second)).map
        (.later first.length) := by
    rw [records_append, ← rejected_map_later]
    exact List.filterMap_append
  have hsnippets : Entries.insertAll [] (compiled (defined parts (records (first ++ second)))) =
      Entries.insertAll (Entries.insertAll [] (compiled (defined parts (records first))))
        (compiled (defined parts (records second))) := by
    rw [hdefined, compiled, List.map_append]
    exact List.foldl_append
  simp only [readingOf]
  rw [hsnippets, hrejected, Entries.insertAll_eq_updated (Entries.nodup_keys_insertAll _)]

/-! ## Sources one after the other -/

/-- **The reading of a source that was continued.** -/
lemma textReading_append (hb : between ≠ []) {first : Text}
    (hend : EndsPiece (Divider.resolved between) first) (second : Text) :
    textReading between parts (first ++ Divider.resolved between ++ second) =
      { snippets := Entries.updated (textReading between parts first).snippets
          (textReading between parts second).snippets
        diagnostics := (textReading between parts first).diagnostics ++
          (textReading between parts second).diagnostics.map
            (.later (splitOn (Divider.resolved between) first).length) } := by
  rw [textReading, splitOn_append (Divider.resolved_ne_nil hb) hend]
  exact readingOf_append _ _

/-- **Reading a source that was continued.** If the text between records, put behind the first
source, ends its last piece (one that is a single character always does), the second source adds
its own meaning: its table updates the first one, and its diagnostics follow, with the number of
pieces of the first source added to their places.

**Proof sketch.** Under the condition the pieces are those of both sources
(`Text.splitOn_append`). What a piece says does not depend on the others, so the diagnostics are
only moved (`rejected_map_later`); and definitions make of a table what they make alone, put into
it (`Entries.insertAll_eq_updated`). -/
theorem parse_append (hb : between ≠ []) (hp : parts ≠ []) :
    ((Divider.resolved between).length = 1 → ∀ first, EndsPiece (Divider.resolved between) first) ∧
      ∀ first second, EndsPiece (Divider.resolved between) first →
        ∃ r₁ r₂ r, parse (.text between) (.text parts) first = .ok r₁ ∧
          parse (.text between) (.text parts) second = .ok r₂ ∧
          parse (.text between) (.text parts) (first ++ Divider.resolved between ++ second) =
            .ok r ∧
          r.snippets = Entries.updated r₁.snippets r₂.snippets ∧
          r.diagnostics = r₁.diagnostics ++
            r₂.diagnostics.map (.later (splitOn (Divider.resolved between) first).length) := by
  constructor
  · intro hlength first
    obtain ⟨c, hc⟩ := List.length_eq_one_iff.mp hlength
    rw [hc]
    exact endsPiece_singleton c first
  · intro first second hend
    refine ⟨_, _, _, parse_text hb hp first, parse_text hb hp second, parse_text hb hp _, ?_, ?_⟩
    · rw [textReading_append hb hend]
    · rw [textReading_append hb hend]

/-- A divider of two characters, a blank record, a trigger that is defined again in the second
source, and a malformed record in each. -/
theorem parse_append_redefined :
    let first := "a=1----b".toList
    let second := "c=3--=x--a=2".toList
    EndsPiece (Divider.resolved "--".toList) first ∧
      ∃ r, parse (.text "--".toList) (.text ['=']) (first ++ "--".toList ++ second) = .ok r ∧
        r.snippets = [(['a'], Escape.compile ['2']), (['c'], Escape.compile ['3'])] ∧
        r.diagnostics = [⟨2, ['b'], .missingDivider (.text ['='])⟩,
          ⟨4, "=x".toList, .emptyTrigger⟩] := by
  intro first second
  have hb : "--".toList ≠ [] := by decide
  have hp : ['='] ≠ [] := by decide
  have hend : EndsPiece (Divider.resolved "--".toList) first :=
    ⟨_, ['b'], splits_splitOn (Divider.resolved_ne_nil hb) first, by rfl, by decide⟩
  obtain ⟨r₁, r₂, r, hfirst, hsecond, hparse, hsnippets, hdiagnostics⟩ :=
    (parse_append hb hp).2 first second hend
  have h₁ : r₁ = ⟨[(['a'], Escape.compile ['1'])], [⟨2, ['b'], .missingDivider (.text ['='])⟩]⟩ :=
    Except.ok.inj (hfirst.symm.trans (by rfl))
  have h₂ : r₂ = ⟨[(['c'], Escape.compile ['3']), (['a'], Escape.compile ['2'])],
      [⟨1, "=x".toList, .emptyTrigger⟩]⟩ := Except.ok.inj (hsecond.symm.trans (by rfl))
  subst h₁ h₂
  exact ⟨hend, r, hparse, hsnippets, hdiagnostics⟩

/-! ## Sources without their malformed records -/

/-- A piece of a source is a malformed record. -/
def Malformed (parts piece : Text) : Prop :=
  ∃ reason, saying parts (trim piece) = some (.rejected reason)

/-- What a piece says decides whether it is malformed. -/
instance decidableMalformed (parts piece : Text) : Decidable (Malformed parts piece) :=
  decidable_of_iff ((saying parts (trim piece)).bind Outcome.reason?).isSome <| by
    simp [Malformed, Option.isSome_iff_exists, Option.bind_eq_some_iff, Outcome.reason?_eq_some]

/-- The source without its malformed records. -/
def withoutMalformed (between parts source : Text) : Text :=
  join (Divider.resolved between)
    ((splitOn (Divider.resolved between) source).filter fun piece => ¬Malformed parts piece)

/-- Malformed records define nothing. -/
lemma defined_filter (parts : Text) (pieces : List Text) :
    defined parts (records (pieces.filter fun piece => ¬Malformed parts piece)) =
      defined parts (records pieces) := by
  simp only [defined_records, definitions, List.filterMap_map, List.filterMap_filter]
  congr 1
  funext piece
  by_cases h : Malformed parts piece
  · obtain ⟨reason, hsaid⟩ := h
    have hmalformed : Malformed parts piece := ⟨reason, hsaid⟩
    simp [hmalformed, hsaid, Outcome.definition?]
  · simp [h]

/-- **Malformed records make no difference to a table.** -/
theorem snippets_withoutMalformed (hb : between ≠ []) (parts source : Text) :
    (textReading between parts (withoutMalformed between parts source)).snippets =
      (textReading between parts source).snippets := by
  have hsep := Divider.resolved_ne_nil hb
  have hdefined := defined_filter parts (splitOn (Divider.resolved between) source)
  simp only [textReading, readingOf, withoutMalformed]
  rw [← hdefined]
  by_cases hnone : (splitOn (Divider.resolved between) source).filter
      (fun piece => ¬Malformed parts piece) = []
  · -- what is left is the empty source, which is one blank piece
    rw [hnone]
    rfl
  · have hsplits := (splits_splitOn hsep source).filter hsep _ hnone
    rw [← hsplits.eq_splitOn hsep]

end Source

end Shorthand
