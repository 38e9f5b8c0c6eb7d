import Shorthand.Proofs.Source.Meaning

set_option autoImplicit false
set_option relaxedAutoImplicit false

/-!
# Which sources can be read, and how much they give

Only dividers make the reading of a source fail, never its records. An empty divider between
records fails always. An empty one between the parts of a record fails when there is a record to
cut; a source of blank pieces has none. A source that can be read gives a snippet or a diagnostic
for every piece that is not blank, but one snippet only for all pieces that define the same
trigger.

## Main definitions

* `Shorthand.Source.Unreadable` — a source that cannot be read with its dividers.
* `Shorthand.Source.DefineSame` — two pieces define the same trigger.

## Main results

* `Shorthand.Source.parse_eq_error_iff` — a source is not read exactly when it is unreadable.
* `Shorthand.Source.length_readingOf_eq_iff` — how much a reading has.
* `Shorthand.Source.parse_fails_or_counts` — exactly when reading fails, and what it gives
  otherwise.
-/

namespace Shorthand.Source

open Text

variable {between parts source record trigger raw : Text} {pieces : List Text}

/-! ## Unreadable sources -/

/-- A source cannot be read with its dividers: there is nothing between records, or there is
nothing between the parts of a record and there is a record. -/
def Unreadable (between parts source : Text) : Prop :=
  between = [] ∨ parts = [] ∧
    ∃ pieces, Splits (Divider.resolved between) source pieces ∧ ∃ piece ∈ pieces, trim piece ≠ []

/-- There are records when a piece is not blank. -/
lemma records_eq_nil_iff : records pieces = [] ↔ ∀ piece ∈ pieces, trim piece = [] := by
  rw [List.eq_nil_iff_forall_not_mem]
  constructor
  · intro h piece hmem
    by_contra hne
    obtain ⟨index, hindex⟩ := List.mem_iff_getElem?.mp (List.mem_map_of_mem (f := trim) hmem)
    exact h (index, trim piece) (mem_records.mpr ⟨hindex, hne⟩)
  · rintro h ⟨index, record⟩ hmem
    obtain ⟨hindex, hne⟩ := mem_records.mp hmem
    obtain ⟨piece, hpiece, rfl⟩ := List.mem_map.mp (List.mem_of_getElem? hindex)
    exact hne (h piece hpiece)

/-- Without a divider between their parts no records can be read. -/
lemma gather_nil (r : Reading) (records : List (ℕ × Text)) :
    gather (.text []) r records = if records = [] then .ok r else .error .emptyDivider := by
  cases records with
  | nil => rfl
  | cons entry rest => rfl

/-- With a divider between records, a source is unreadable when its records cannot be cut. -/
lemma unreadable_iff (hb : between ≠ []) :
    Unreadable between parts source ↔
      parts = [] ∧ records (splitOn (Divider.resolved between) source) ≠ [] := by
  have hresolved := Divider.resolved_ne_nil hb
  rw [Unreadable, or_iff_right hb, Ne, records_eq_nil_iff]
  simp only [splits_iff hresolved, exists_eq_left, not_forall, exists_prop]

/-- A source that can be read gives the reading of its records. -/
lemma parse_eq_ok (h : ¬Unreadable between parts source) :
    between ≠ [] ∧ parse (.text between) (.text parts) source =
      .ok (textReading between parts source) := by
  have hb : between ≠ [] := fun hnil => h (.inl hnil)
  refine ⟨hb, ?_⟩
  by_cases hp : parts = []
  · have hnone : records (splitOn (Divider.resolved between) source) = [] := by
      by_contra hne
      exact h ((unreadable_iff hb).mpr ⟨hp, hne⟩)
    rw [parse, split_resolved hb, textReading, hp]
    change gather (.text []) {} (records (splitOn (Divider.resolved between) source)) = _
    rw [hnone]
    rfl
  · exact parse_text hb hp source

/-- **A source is not read** exactly when it is unreadable, for want of a divider. -/
theorem parse_eq_error_iff (f : Failure) :
    parse (.text between) (.text parts) source = .error f ↔
      f = .emptyDivider ∧ Unreadable between parts source := by
  by_cases h : Unreadable between parts source
  · rw [and_iff_left h]
    have herror : parse (.text between) (.text parts) source = .error .emptyDivider := by
      by_cases hb : between = []
      · rw [hb]
        rfl
      · obtain ⟨hp, hne⟩ := (unreadable_iff hb).mp h
        rw [parse, split_resolved hb, hp]
        exact (gather_nil {} _).trans (if_neg hne)
    rw [herror, Except.error.injEq, eq_comm]
  · rw [(parse_eq_ok h).2]
    exact iff_of_false (by simp) fun hf => h hf.2

/-! ## Counting -/

/-- Two trimmed pieces define the same trigger. -/
def DefineSame (parts a b : Text) : Prop :=
  ∃ trigger raw raw', Says parts a (some (.defines trigger raw)) ∧
    Says parts b (some (.defines trigger raw'))

/-- What defines a trigger is computed, also when there is no divider. -/
lemma says_defines_iff :
    Says parts record (some (.defines trigger raw)) ↔
      saying parts record = some (.defines trigger raw) := by
  constructor
  · rintro (_ | _ | _ | ⟨htrigger, hfirst⟩)
    obtain ⟨c, rest, rfl⟩ := List.exists_cons_of_ne_nil htrigger
    have hcut : cut parts (c :: rest ++ parts ++ raw) = some (c :: rest, raw) :=
      cut_eq_some_iff.mpr ⟨rfl, hfirst⟩
    rw [saying, if_neg (by simp), outcomeAt, hcut]
  · intro h
    rw [← h]
    exact says_saying parts record

/-- Every record is rejected or defines a trigger. -/
lemma length_defined_add_length_rejected (parts : Text) (records : List (ℕ × Text)) :
    (defined parts records).length + (rejected parts records).length = records.length := by
  induction records with
  | nil => rfl
  | cons entry rest ih =>
    obtain ⟨index, record⟩ := entry
    rw [defined, rejected] at ih ⊢
    rw [List.length_cons, ← ih]
    cases ho : outcomeAt parts record
    all_goals
      simp only [List.filterMap_cons, ho, Outcome.definition?, Outcome.reason?, Option.map_some,
        Option.map_none, List.length_cons]
      omega

/-- There are as many records as pieces that are not blank. -/
lemma length_records (pieces : List Text) :
    (records pieces).length = (pieces.filter fun piece => trim piece ≠ []).length := by
  have hpieces : pieces = pieces.zipIdx.map (·.1) := (List.zipIdx_map_fst 0 pieces).symm
  conv_rhs => rw [hpieces]
  rw [records, List.filter_map, List.filter_map, List.length_map, List.length_map]
  congr 2
  funext x
  dsimp only [Function.comp_apply]
  cases trim x.1 <;> rfl

/-- What pieces define is what they say. -/
lemma bind_definition?_eq_some {said : Option Outcome} :
    said.bind Outcome.definition? = some (trigger, raw) ↔ said = some (.defines trigger raw) := by
  rcases said with _ | _ | _ <;> simp [Outcome.definition?]

/-- No trigger is defined twice exactly when no two pieces define the same. -/
lemma nodup_defined_iff :
    (Entries.keys (defined parts (records pieces))).Nodup ↔
      (pieces.map trim).Pairwise fun a b => ¬DefineSame parts a b := by
  rw [defined_records, definitions, Entries.keys, List.Nodup, List.pairwise_map,
    List.pairwise_filterMap, List.pairwise_map]
  refine List.Pairwise.iff fun a b => ?_
  simp only [DefineSame, says_defines_iff, Prod.forall, bind_definition?_eq_some]
  constructor
  · rintro h ⟨trigger, raw, raw', ha, hb⟩
    exact h trigger raw ha trigger raw' hb rfl
  · rintro h trigger raw ha _ raw' hb rfl
    exact h ⟨trigger, raw, raw', ha, hb⟩

/-- **How much a reading has:** no more snippets and diagnostics than records. -/
lemma length_readingOf_le (parts : Text) (records : List (ℕ × Text)) :
    (readingOf parts records).snippets.length + (readingOf parts records).diagnostics.length ≤
      records.length := by
  have hle := Entries.length_insertAll_le (compiled (defined parts records))
  rw [compiled, List.length_map] at hle
  rw [← length_defined_add_length_rejected parts records]
  exact Nat.add_le_add_right hle _

/-- **It has as many** exactly when no two pieces define the same trigger. -/
theorem length_readingOf_eq_iff (parts : Text) (pieces : List Text) :
    (readingOf parts (records pieces)).snippets.length +
        (readingOf parts (records pieces)).diagnostics.length = (records pieces).length ↔
      (pieces.map trim).Pairwise fun a b => ¬DefineSame parts a b := by
  have hkeys : Entries.keys (compiled (defined parts (records pieces))) =
      Entries.keys (defined parts (records pieces)) := by
    rw [compiled, Entries.keys, List.map_map]
    rfl
  have hlength : (compiled (defined parts (records pieces))).length =
      (defined parts (records pieces)).length :=
    List.length_map _
  rw [← nodup_defined_iff, ← hkeys, ← Entries.length_insertAll_eq_iff, hlength,
    ← length_defined_add_length_rejected parts (records pieces)]
  exact Nat.add_right_cancel_iff

/-- **Exactly when reading fails, and what it gives otherwise.** Reading fails for want of a
divider, and for nothing that records say. Otherwise there are at most as many snippets and
diagnostics as pieces that are not blank, and just as many when no two pieces define the same
trigger.

**Proof sketch.** Without a divider between the parts the first record fails, and without records
nothing does (`gather_nil`). Every record is rejected or defines a trigger
(`length_defined_add_length_rejected`), and a table has as many entries as definitions when no
trigger is defined twice (`Entries.length_insertAll_eq_iff`). -/
theorem parse_fails_or_counts (between parts source : Text) :
    (∀ f, parse (.text between) (.text parts) source = .error f ↔
      f = .emptyDivider ∧ Unreadable between parts source) ∧
    (¬Unreadable between parts source →
      ∃ (r : Reading) (pieces : List Text),
        parse (.text between) (.text parts) source = .ok r ∧
        (∀ others, Splits (Divider.resolved between) source others ↔ others = pieces) ∧
        r.snippets.length +
          r.diagnostics.length ≤ (pieces.filter fun piece => trim piece ≠ []).length ∧
        (r.snippets.length + r.diagnostics.length =
          (pieces.filter fun piece => trim piece ≠ []).length ↔
          (pieces.map trim).Pairwise fun a b => ¬DefineSame parts a b)) := by
  refine ⟨parse_eq_error_iff, fun h => ?_⟩
  obtain ⟨hb, hparse⟩ := parse_eq_ok h
  refine ⟨_, splitOn (Divider.resolved between) source, hparse,
    fun _ => splits_iff (Divider.resolved_ne_nil hb), ?_⟩
  rw [← length_records]
  exact ⟨length_readingOf_le parts _, length_readingOf_eq_iff parts _⟩

/-- Three lines that are not blank, of which two define the same trigger, give less than three;
and without a divider between the parts they cannot be read. -/
theorem parse_fails_or_counts_redefined :
    let source := "a=1\n \nb\na=2".toList
    ¬Unreadable Divider.newlineMark ['='] source ∧
      (∃ r, parse (.text Divider.newlineMark) (.text ['=']) source = .ok r ∧
        r.snippets.length + r.diagnostics.length < 3) ∧
      parse (.text Divider.newlineMark) (.text []) source = .error .emptyDivider := by
  intro source
  have hnewline : Divider.newlineMark ≠ [] := by decide
  have hreadable : ¬Unreadable Divider.newlineMark ['='] source := by
    rw [unreadable_iff hnewline]
    decide
  have hunreadable : Unreadable Divider.newlineMark [] source := by
    rw [unreadable_iff hnewline]
    decide +kernel
  have hsame : DefineSame ['='] "a=1".toList "a=2".toList :=
    ⟨['a'], ['1'], ['2'], says_defines_iff.mpr (by decide), says_defines_iff.mpr (by decide)⟩
  obtain ⟨r, pieces, hparse, hpieces, hle, hcount⟩ := (parse_fails_or_counts _ _ _).2 hreadable
  obtain rfl := (hpieces _).mp (splits_splitOn (Divider.resolved_ne_nil hnewline) source)
  have hsplit : splitOn (Divider.resolved Divider.newlineMark) source =
      ["a=1".toList, [' '], ['b'], "a=2".toList] := by decide +kernel
  rw [hsplit] at hle hcount
  have hthree : (["a=1".toList, [' '], ['b'], "a=2".toList].filter fun piece =>
      trim piece ≠ []).length = 3 := by
    decide
  rw [hthree] at hle hcount
  refine ⟨hreadable, ⟨r, hparse, lt_of_le_of_ne hle fun heq => ?_⟩,
    ((parse_fails_or_counts _ _ _).1 _).mpr ⟨rfl, hunreadable⟩⟩
  have hpairwise := List.pairwise_cons.mp (hcount.mp heq)
  exact hpairwise.1 "a=2".toList (by decide) hsame

/-- Blank lines can be read without a divider between parts, and nothing comes of them. -/
example : parse (.text Divider.newlineMark) (.text []) " \n\t".toList = .ok {} := by decide +kernel

end Shorthand.Source
