import Mathlib.Data.List.Forall2
import Mathlib.Data.List.Range
import Shorthand.Proofs.Entries.Definitions
import Shorthand.Proofs.Text.Occurrence
import Shorthand.Source

set_option autoImplicit false
set_option relaxedAutoImplicit false

/-!
# What a source says

Every piece of a source says one thing: nothing, that it is malformed, or that a trigger has an
expansion. What is said does not depend on the other pieces. From what all of them say follows
what the source gives: the malformed ones are reported in order with their places, and the
definitions make the table.

## Main definitions

* `Shorthand.Source.Says` — what a trimmed piece says.
* `Shorthand.Source.definitions` — the definitions among what pieces say.
* `Shorthand.Source.Reading.Tells` — a reading is what follows from what the pieces say.

## Main results

* `Shorthand.Source.says_iff` — a piece says one thing.
* `Shorthand.Source.gather_text` — a reading in closed form.
* `Shorthand.Source.exists_tells` — reading a source gives what its pieces say.
* `Shorthand.Source.parse_tells` — the exact meaning of a source.
-/

namespace Shorthand

open Text

/-- The text between records that a setting stands for: a line break for its mark, and any other
text for itself. -/
def Divider.resolved (t : Text) : Text := if t = newlineMark then ['\n'] else t

/-- It is not empty unless the setting is. -/
lemma Divider.resolved_ne_nil {t : Text} (h : t ≠ []) : resolved t ≠ [] := by
  unfold resolved
  split_ifs
  · exact List.cons_ne_nil _ _
  · exact h

/-- It is a line break for its mark and for itself. -/
lemma Divider.resolved_eq_break_iff {t : Text} :
    resolved t = ['\n'] ↔ t = newlineMark ∨ t = ['\n'] := by
  by_cases ht : t = newlineMark <;> simp [resolved, ht]

/-- Neither of these is empty. -/
lemma Divider.ne_nil_of_resolved {t : Text} (h : t = newlineMark ∨ t = ['\n']) : t ≠ [] := by
  rcases h with rfl | rfl <;> exact List.cons_ne_nil _ _

namespace Source

variable {between parts record : Text} {pieces : List Text}

/-! ## What a piece says -/

/-- What a trimmed piece says, when triggers and expansions are parted by a text. -/
inductive Says (parts : Text) : Text → Option Outcome → Prop
  /-- A blank piece says nothing. -/
  | blank : Says parts [] none
  /-- Without the divider nothing is defined. -/
  | undivided {record : Text} : record ≠ [] → ¬parts <:+: record →
      Says parts record (some (.rejected (.missingDivider (.text parts))))
  /-- Before a divider at the front there is no trigger. -/
  | unnamed {raw : Text} : Says parts (parts ++ raw) (some (.rejected .emptyTrigger))
  /-- A trigger stands before the first divider, and its expansion is all that follows. -/
  | defines {trigger raw : Text} : trigger ≠ [] →
      FirstAt parts (trigger ++ parts ++ raw) trigger.length →
      Says parts (trigger ++ parts ++ raw) (some (.defines trigger raw))

/-- What a trimmed piece says, computed. -/
def saying (parts record : Text) : Option Outcome :=
  if record = [] then none else some (outcomeAt parts record)

/-- What is said is what is computed. -/
lemma Says.eq_saying (hp : parts ≠ []) {o : Option Outcome} (h : Says parts record o) :
    o = saying parts record := by
  cases h with
  | blank => rfl
  | undivided hne hno => rw [saying, if_neg hne, outcomeAt, cut_eq_none_iff.mpr hno]
  | @unnamed raw =>
    have hcut : cut parts (parts ++ raw) = some ([], raw) :=
      cut_eq_some_iff.mpr ⟨rfl, firstAt_zero.mpr (List.prefix_append parts raw)⟩
    rw [saying, if_neg (List.append_ne_nil_of_left_ne_nil hp raw), outcomeAt, hcut]
  | @defines trigger raw htrigger hfirst =>
    obtain ⟨c, rest, rfl⟩ := List.exists_cons_of_ne_nil htrigger
    have hcut : cut parts (c :: rest ++ parts ++ raw) = some (c :: rest, raw) :=
      cut_eq_some_iff.mpr ⟨rfl, hfirst⟩
    have hne : c :: rest ++ parts ++ raw ≠ [] := by simp
    rw [saying, if_neg hne, outcomeAt, hcut]

/-- What is computed is said. -/
lemma says_saying (parts record : Text) : Says parts record (saying parts record) := by
  by_cases hne : record = []
  · rw [hne]
    exact .blank
  · rw [saying, if_neg hne, outcomeAt]
    cases hc : cut parts record with
    | none => exact .undivided hne (cut_eq_none_iff.mp hc)
    | some ends =>
      obtain ⟨trigger, raw⟩ := ends
      obtain ⟨rfl, hfirst⟩ := cut_eq_some_iff.mp hc
      cases trigger with
      | nil => exact .unnamed
      | cons c rest => exact .defines (List.cons_ne_nil c rest) hfirst

/-- **A piece says one thing.** -/
theorem says_iff (hp : parts ≠ []) {o : Option Outcome} :
    Says parts record o ↔ o = saying parts record :=
  ⟨Says.eq_saying hp, fun h => h ▸ says_saying parts record⟩

/-- So do pieces one after the other. -/
lemma forall₂_says_iff (hp : parts ≠ []) {records : List Text} {sayings : List (Option Outcome)} :
    List.Forall₂ (Says parts) records sayings ↔ sayings = records.map (saying parts) := by
  constructor
  · intro h
    induction h with
    | nil => rfl
    | cons hsaid _ ih => rw [List.map_cons, (says_iff hp).mp hsaid, ih]
  · rintro rfl
    refine List.forall₂_map_right_iff.mpr (List.forall₂_same.mpr fun record _ => ?_)
    exact (says_iff hp).mpr rfl

/-! ## What follows for a reading -/

/-- The definition that an outcome is, if it is one. -/
def Outcome.definition? : Outcome → Option (Text × Text)
  | .defines trigger raw => some (trigger, raw)
  | .rejected _ => none

/-- The reason why an outcome is none. -/
def Outcome.reason? : Outcome → Option Reason
  | .defines _ _ => none
  | .rejected reason => some reason

/-- It is there exactly when the outcome is a rejection for it. -/
lemma Outcome.reason?_eq_some {o : Outcome} {reason : Reason} :
    o.reason? = some reason ↔ o = .rejected reason := by
  cases o <;> simp [Outcome.reason?]

/-- The definitions among what pieces say, each a trigger with its written expansion. -/
def definitions (sayings : List (Option Outcome)) : List (Text × Text) :=
  sayings.filterMap (·.bind Outcome.definition?)

/-- A reading is what follows from what the pieces of a source say. -/
structure Reading.Tells (records : List Text) (sayings : List (Option Outcome)) (r : Reading) :
    Prop where
  /-- Malformed pieces are reported in order. -/
  ordered : r.diagnostics.Pairwise (·.index < ·.index)
  /-- Each is reported with its place among all pieces, and nothing else is. -/
  diagnosed : ∀ x : Diagnostic, x ∈ r.diagnostics ↔
    records[x.index]? = some x.record ∧ sayings[x.index]? = some (some (.rejected x.reason))
  /-- The triggers of the table are those that were defined, in the order of their first
  definitions. -/
  triggers : Entries.keys r.snippets = ((definitions sayings).map (·.1)).eraseDups
  /-- No trigger is repeated. -/
  distinct : (Entries.keys r.snippets).Nodup
  /-- The expansion of a trigger is the one of its last definition, compiled. -/
  expansions : ∀ trigger, Entries.find? r.snippets trigger =
    ((definitions sayings).reverse.lookup trigger).map Escape.compile

/-- The diagnostics of records. -/
def rejected (parts : Text) (records : List (ℕ × Text)) : List Diagnostic :=
  records.filterMap fun (index, record) =>
    (outcomeAt parts record).reason?.map fun reason => ⟨index, record, reason⟩

/-- The definitions of records. -/
def defined (parts : Text) (records : List (ℕ × Text)) : List (Text × Text) :=
  records.filterMap fun (_, record) => (outcomeAt parts record).definition?

/-- The definitions with their expansions compiled. -/
def compiled (ds : List (Text × Text)) : Entries Expansion :=
  ds.map fun (trigger, raw) => (trigger, Escape.compile raw)

/-- **A reading in closed form:** the table takes in the definitions, and the diagnostics follow
those that there are. -/
theorem gather_text (hp : parts ≠ []) (records : List (ℕ × Text)) (r : Reading) :
    gather (.text parts) r records =
      .ok { snippets := Entries.insertAll r.snippets (compiled (defined parts records))
            diagnostics := r.diagnostics ++ rejected parts records } := by
  induction records generalizing r with
  | nil =>
    rw [gather]
    simp [rejected, defined, compiled, Entries.insertAll]
  | cons entry rest ih =>
    obtain ⟨index, record⟩ := entry
    have houtcome : outcome (.text parts) record = .ok (outcomeAt parts record) := by
      rw [outcome, if_neg (by simpa using hp)]
    rw [gather, houtcome]
    refine (ih (r.add index record (outcomeAt parts record))).trans ?_
    cases ho : outcomeAt parts record with
    | rejected reason =>
      have hrejected : rejected parts ((index, record) :: rest) =
          ⟨index, record, reason⟩ :: rejected parts rest := by
        simp [rejected, ho, Outcome.reason?]
      have hdefined : defined parts ((index, record) :: rest) = defined parts rest := by
        simp [defined, ho, Outcome.definition?]
      rw [hrejected, hdefined, Reading.add, List.append_assoc, List.singleton_append]
    | defines trigger raw =>
      have hrejected : rejected parts ((index, record) :: rest) = rejected parts rest := by
        simp [rejected, ho, Outcome.reason?]
      have hdefined : defined parts ((index, record) :: rest) =
          (trigger, raw) :: defined parts rest := by
        simp [defined, ho, Outcome.definition?]
      rw [hrejected, hdefined]
      rfl

/-- A record is a trimmed piece that is not blank, with its place. -/
lemma mem_records {index : ℕ} :
    (index, record) ∈ records pieces ↔ (pieces.map trim)[index]? = some record ∧ record ≠ [] := by
  rw [records, List.mem_filter, List.mem_map, List.getElem?_map, Option.map_eq_some_iff]
  constructor
  · rintro ⟨⟨⟨piece, place⟩, hmem, heq⟩, hne⟩
    obtain ⟨rfl, rfl⟩ := Prod.mk.inj heq
    exact ⟨⟨piece, List.mem_zipIdx_iff_getElem?.mp hmem, rfl⟩, by simpa using hne⟩
  · rintro ⟨⟨piece, hpiece, rfl⟩, hne⟩
    exact ⟨⟨(piece, index), List.mem_zipIdx_iff_getElem?.mpr hpiece, rfl⟩, by simpa using hne⟩

/-- Records stand in the order of their places. -/
lemma pairwise_records (pieces : List Text) : (records pieces).Pairwise (·.1 < ·.1) := by
  have hplaces : (pieces.zipIdx.map Prod.snd).Pairwise (· < ·) := by
    rw [List.zipIdx_map_snd]
    exact List.pairwise_lt_range' 1
  have hpieces : pieces.zipIdx.Pairwise (·.2 < ·.2) := List.pairwise_map.mp hplaces
  refine List.Pairwise.filter _ (List.pairwise_map.mpr ?_)
  exact hpieces

/-- The diagnostics stand in the order of their places as well. -/
lemma pairwise_rejected (parts : Text) (pieces : List Text) :
    (rejected parts (records pieces)).Pairwise (·.index < ·.index) := by
  refine (pairwise_records pieces).filterMap _ fun a b hab x hx y hy => ?_
  obtain ⟨_, -, rfl⟩ := Option.map_eq_some_iff.mp hx
  obtain ⟨_, -, rfl⟩ := Option.map_eq_some_iff.mp hy
  exact hab

/-- They report the records that are rejected. -/
lemma mem_rejected {x : Diagnostic} :
    x ∈ rejected parts (records pieces) ↔
      (x.index, x.record) ∈ records pieces ∧ outcomeAt parts x.record = .rejected x.reason := by
  rw [rejected, List.mem_filterMap]
  constructor
  · rintro ⟨⟨index, record⟩, hmem, hx⟩
    obtain ⟨reason, hreason, rfl⟩ := Option.map_eq_some_iff.mp hx
    exact ⟨hmem, Outcome.reason?_eq_some.mp hreason⟩
  · rintro ⟨hmem, hx⟩
    refine ⟨(x.index, x.record), hmem, ?_⟩
    simp only [Outcome.reason?_eq_some.mpr hx, Option.map_some]

/-- The definitions of the records are those of the pieces. -/
lemma defined_records (parts : Text) (pieces : List Text) :
    defined parts (records pieces) = definitions ((pieces.map trim).map (saying parts)) := by
  have hplaces : pieces.map trim = pieces.zipIdx.map fun x => trim x.1 := by
    conv_lhs => rw [← List.zipIdx_map_fst 0 pieces, List.map_map]
    rfl
  rw [hplaces, defined, records, definitions, List.filterMap_filter, List.filterMap_map,
    List.filterMap_map, List.filterMap_map]
  congr 1
  funext x
  by_cases h : trim x.1 = [] <;> simp [saying, h]

/-- The reading that records make. -/
def readingOf (parts : Text) (records : List (ℕ × Text)) : Reading where
  snippets := Entries.insertAll [] (compiled (defined parts records))
  diagnostics := rejected parts records

/-- It is what follows from what the pieces say. -/
lemma tells_readingOf (parts : Text) (pieces : List Text) :
    (readingOf parts (records pieces)).Tells (pieces.map trim)
      ((pieces.map trim).map (saying parts)) := by
  have hdefined := defined_records parts pieces
  refine ⟨pairwise_rejected parts pieces, fun x => ?_, ?_, Entries.nodup_keys_insertAll _,
    fun trigger => ?_⟩
  · have hsaid (h : (pieces.map trim)[x.index]? = some x.record) :
        ((pieces.map trim).map (saying parts))[x.index]? = some (saying parts x.record) := by
      rw [List.getElem?_map, h, Option.map_some]
    rw [readingOf, mem_rejected, mem_records, and_assoc]
    refine and_congr_right fun h => ?_
    rw [hsaid h, saying]
    split_ifs with hne
    · simp [hne]
    · simp [hne]
  · rw [readingOf, Entries.keys_insertAll, hdefined, compiled, List.map_map]
    rfl
  · rw [readingOf, Entries.find?_insertAll, hdefined, compiled, ← List.map_reverse]
    exact Entries.lookup_map Escape.compile _ trigger

/-- A source is split at the text that its setting stands for. -/
lemma split_resolved (hb : between ≠ []) (source : Text) :
    (Divider.text between).betweenRecords.split source =
      .ok (splitOn (Divider.resolved between) source) := by
  change (Divider.text (Divider.resolved between)).split source = _
  rw [Divider.split, if_neg (by simpa using Divider.resolved_ne_nil hb)]

/-- The reading that the records of a source make. -/
def textReading (between parts source : Text) : Reading :=
  readingOf parts (records (splitOn (Divider.resolved between) source))

/-- It is the reading of the source. -/
lemma parse_text (hb : between ≠ []) (hp : parts ≠ []) (source : Text) :
    parse (.text between) (.text parts) source = .ok (textReading between parts source) := by
  rw [parse, split_resolved hb]
  exact gather_text hp _ {}

/-- **Reading a source gives what its pieces say.** -/
theorem exists_tells (hb : between ≠ []) (hp : parts ≠ []) (source : Text) :
    ∃ r, parse (.text between) (.text parts) source = .ok r ∧
      r.Tells ((splitOn (Divider.resolved between) source).map trim)
        (((splitOn (Divider.resolved between) source).map trim).map (saying parts)) :=
  ⟨_, parse_text hb hp source, tells_readingOf parts _⟩

/-- **The exact meaning of a source.** A source has one list of pieces, every piece, trimmed, says
one thing, and the reading is what follows from that.

**Proof sketch.** There is one list of pieces (`splits_iff`), and each says one thing
(`forall₂_says_iff`). By induction on the records, reading them inserts the definitions in order
and collects the diagnostics (`gather_text`). Inserting them one after the other keeps each
trigger at its first definition and gives it its last expansion (`Entries.keys_insertAll`,
`Entries.find?_insertAll`). -/
theorem parse_tells (hb : between ≠ []) (hp : parts ≠ []) (source : Text) :
    ∃ (pieces : List Text) (sayings : List (Option Outcome)) (r : Reading),
      (∀ others, Splits (Divider.resolved between) source others ↔ others = pieces) ∧
      (∀ others, List.Forall₂ (Says parts) (pieces.map trim) others ↔ others = sayings) ∧
      parse (.text between) (.text parts) source = .ok r ∧ r.Tells (pieces.map trim) sayings := by
  obtain ⟨r, hparse, htells⟩ := exists_tells hb hp source
  exact ⟨_, _, r, fun _ => splits_iff (Divider.resolved_ne_nil hb), fun _ => forall₂_says_iff hp,
    hparse, htells⟩

/-- Lines with a blank one, one without a divider, one without a trigger, and one that defines the
trigger of the first again, where the divider occurs twice. -/
theorem parse_tells_lines :
    let source := "a=1\n\n b \n=c\na=2=3".toList
    ∃ r, parse (.text Divider.newlineMark) (.text ['=']) source = .ok r ∧
      r.Tells ["a=1".toList, [], "b".toList, "=c".toList, "a=2=3".toList]
        [some (.defines ['a'] ['1']), none, some (.rejected (.missingDivider (.text ['=']))),
          some (.rejected .emptyTrigger), some (.defines ['a'] "2=3".toList)] := by
  intro source
  have hb : Divider.newlineMark ≠ [] := by decide
  have hp : ['='] ≠ [] := by decide
  obtain ⟨pieces, sayings, r, hpieces, hsayings, hparse, htells⟩ := parse_tells hb hp source
  have hsplits := splits_splitOn (Divider.resolved_ne_nil hb) source
  obtain rfl := (hpieces _).mp hsplits
  obtain rfl := (hsayings _).mp ((forall₂_says_iff hp).mpr rfl)
  exact ⟨r, hparse, htells⟩

end Source

end Shorthand
