import Mathlib.Tactic.Lemma
import Shorthand.Settings.Source

set_option autoImplicit false
set_option relaxedAutoImplicit false

/-!
# What a table is made from

The key of a table is all that the table depends on. What is read depends on nothing else in the
settings and in the files, and not even on the key itself but on its values up to agreement:
values of other kinds than texts and null can agree without being the same, but none of them can
be used.

## Main definitions

* `Shorthand.TableKey.reading` — what is read from a key.

## Main results

* `Shorthand.TableKey.reading_eq_of_agrees` — keys that agree give the same.
* `Shorthand.TableKey.agrees_text_iff` — keys of texts agree only with themselves.
* `Shorthand.SnippetSettings.read_eq_reading` — settings that give a key give what is read from it.
-/

namespace Shorthand

/-! ## Values that agree -/

namespace Value

variable {reflexive : Bool} {v w : Value} {s t : Text}

/-- A text agrees with nothing but itself. -/
@[simp]
lemma text_agrees_iff : (text s).agrees reflexive w = true ↔ w = text s := by
  cases w with
  | text t =>
    simp only [agrees, scalarAgrees, beq_iff_eq, text.injEq]
    exact eq_comm
  | _ => simp [agrees, scalarAgrees, count?]

/-- Nothing but a text agrees with it. -/
@[simp]
lemma agrees_text_iff : v.agrees reflexive (text s) = true ↔ v = text s := by
  cases v <;> simp [agrees, scalarAgrees, count?]

/-- Null agrees with nothing but itself. -/
@[simp]
lemma null_agrees_iff : null.agrees reflexive w = true ↔ w = null := by
  cases w <;> simp [agrees, scalarAgrees, count?]

/-- Nothing but null agrees with it. -/
@[simp]
lemma agrees_null_iff : v.agrees reflexive null = true ↔ v = null := by
  cases v <;> simp [agrees, scalarAgrees, count?]

end Value

/-- Values that agree are the same divider. -/
lemma Divider.ofValue_eq_of_agrees {reflexive : Bool} {v w : Value}
    (h : v.agrees reflexive w = true) : ofValue v = ofValue w := by
  cases v with
  | text s => rw [Value.text_agrees_iff.mp h]
  | null => rw [Value.null_agrees_iff.mp h]
  | _ =>
    cases w with
    | text t => exact nomatch Value.agrees_text_iff.mp h
    | null => exact nomatch Value.agrees_null_iff.mp h
    | _ => rfl

namespace Source

/-- Sources that agree are the same text, or none of them is a text. -/
lemma parseValues_eq_of_agrees {reflexive : Bool} {v w : Value} (h : v.agrees reflexive w = true)
    {between parts between' parts' : Value}
    (hbetween : Divider.ofValue between = Divider.ofValue between')
    (hparts : Divider.ofValue parts = Divider.ofValue parts') :
    parseValues v between parts = parseValues w between' parts' := by
  cases v with
  | text s => rw [Value.text_agrees_iff.mp h, parseValues, parseValues, hbetween, hparts]
  | _ =>
    cases w with
    | text t => exact nomatch Value.agrees_text_iff.mp h
    | _ => rfl

end Source

/-! ## Keys -/

namespace TableKey

/-- What is read from a key. -/
def reading (k : TableKey) : Except Failure Source.Reading :=
  (Source.parseValues k.source k.between k.parts).2

/-- Keys agree when their values do. -/
lemma agrees_iff {k l : TableKey} :
    k.agrees l = true ↔ k.source.agrees true l.source = true ∧
      k.between.agrees true l.between = true ∧ k.parts.agrees true l.parts = true := by
  simp [agrees, toList, Value.itemsAgree]

/-- **Keys that agree give the same,** or fail alike. -/
theorem reading_eq_of_agrees {k l : TableKey} (h : k.agrees l = true) : k.reading = l.reading := by
  obtain ⟨hsource, hbetween, hparts⟩ := agrees_iff.mp h
  rw [reading, reading, Source.parseValues_eq_of_agrees hsource
    (Divider.ofValue_eq_of_agrees hbetween) (Divider.ofValue_eq_of_agrees hparts)]

/-- **Keys of texts agree only with themselves.** -/
theorem agrees_text_iff {source between parts : Text} {l : TableKey} :
    agrees ⟨.text source, .text between, .text parts⟩ l = true ↔
      l = ⟨.text source, .text between, .text parts⟩ := by
  obtain ⟨source', between', parts'⟩ := l
  simp [agrees_iff]

end TableKey

/-! ## Keys of settings -/

namespace SnippetSettings

variable {s : SnippetSettings} {files : Files} {key : TableKey} {source : Value}

/-- The key has the source and the dividers of the settings. -/
lemma tableKey_eq_ok_iff :
    (s.tableKey files).2 = .ok key ↔
      Entries.has s.other tableKeyName = false ∧
        ∃ source, (s.readSource files).2 = .ok source ∧
          key = ⟨source, s.recordDivider, s.partDivider⟩ := by
  rw [tableKey]
  generalize s.readSource files = r
  obtain ⟨log, result⟩ := r
  cases Entries.has s.other tableKeyName with
  | true => simp
  | false => cases result <;> simp [Except.map, eq_comm]

/-- What is read is what is read from the source. -/
lemma read_of_readSource (h : (s.readSource files).2 = .ok source) :
    (s.read files).2 = (Source.parseValues source s.recordDivider s.partDivider).2 := by
  generalize hr : s.readSource files = r at h
  obtain ⟨log, result⟩ := r
  cases h
  rw [read, hr]

/-- **Settings that give a key give what is read from it.** -/
theorem read_eq_reading (h : (s.tableKey files).2 = .ok key) : (s.read files).2 = key.reading := by
  obtain ⟨-, source, hsource, rfl⟩ := tableKey_eq_ok_iff.mp h
  exact read_of_readSource hsource

end SnippetSettings

end Shorthand
