import Mathlib.Tactic.Lemma
import Shorthand.Dispatcher

set_option autoImplicit false
set_option relaxedAutoImplicit false

/-!
# Modes for the keys

The keys get their modes one after the other. A setting that is no mode disables its key and is
reported; when the log fails at that, the keys from there on keep the modes that they had. A lenient
log fails at nothing.

## Main definitions

* `Shorthand.Dispatcher.withModes` — the dispatcher with the modes that settings give to all keys.

## Main results

* `Shorthand.Mode.reportAll_lenient` — a lenient log takes all settings.
* `Shorthand.Dispatcher.configure_fst` — what comes of the reports.
* `Shorthand.Dispatcher.configure_of_ok` — if the log takes them, all keys get their modes.
* `Shorthand.Dispatcher.multiline_configure`, `Shorthand.Dispatcher.phase_configure` — what stays as
  it was in any case.
-/

namespace Shorthand

/-! ## Reports -/

/-- A lenient log takes a report, whether or not it can be put into words. -/
lemma Log.Handling.report_lenient (entry : Except Failure Log.Entry) :
    (Log.Handling.lenient.report entry).2 = .ok () := by
  cases entry <;> rfl

/-- It takes the report of a setting. -/
lemma Mode.report_lenient (v : Value) : (report .lenient v).2 = .ok () := by
  rw [report]
  split
  · rfl
  · exact Log.Handling.report_lenient _

/-- **A lenient log takes all settings.** -/
theorem Mode.reportAll_lenient (values : List Value) : (reportAll .lenient values).2 = .ok () := by
  induction values with
  | nil => rfl
  | cons v rest ih =>
    have hreport := report_lenient v
    rw [reportAll]
    split
    · rename_i hfailed
      rw [hfailed] at hreport
      cases hreport
    · exact ih

namespace Dispatcher

variable {d : Dispatcher} {handling : Log.Handling} {setting : Key → Value}

/-! ## Modes -/

/-- The dispatcher with the modes that settings give to all keys. -/
def withModes (d : Dispatcher) (setting : Key → Value) : Dispatcher :=
  { d with
    space := { d.space with mode := .ofValue (setting .space) }
    tab := { d.tab with mode := .ofValue (setting .tab) }
    enter := { d.enter with mode := .ofValue (setting .enter) } }

/-- What comes of the reports does not depend on the channels. -/
lemma configureKeys_fst (keys : List Key) (d : Dispatcher) :
    (configureKeys handling setting keys d).1 = Mode.reportAll handling (keys.map setting) := by
  induction keys generalizing d with
  | nil => rfl
  | cons k rest ih =>
    rw [configureKeys, List.map_cons, Mode.reportAll]
    obtain ⟨log, _ | _⟩ := Mode.report handling (setting k)
    · rfl
    · rw [← ih (d.setMode (.ofValue (setting k)) k)]

/-- If the log takes them all, the keys get their modes. -/
lemma configureKeys_of_ok (keys : List Key) (d : Dispatcher)
    (h : (Mode.reportAll handling (keys.map setting)).2 = .ok ()) :
    (configureKeys handling setting keys d).2 =
      keys.foldl (fun d k => d.setMode (.ofValue (setting k)) k) d := by
  induction keys generalizing d with
  | nil => rfl
  | cons k rest ih =>
    rw [List.map_cons, Mode.reportAll] at h
    rw [configureKeys, List.foldl_cons]
    generalize Mode.report handling (setting k) = report at h ⊢
    obtain ⟨log, _ | _⟩ := report
    · cases h
    · exact ih _ h

/-- **What comes of the reports** of all settings. -/
theorem configure_fst :
    (configure handling setting d).1 = Mode.reportAll handling (Key.all.map setting) :=
  configureKeys_fst _ d

/-- **If the log takes the reports, all keys get their modes.** -/
theorem configure_of_ok (h : (Mode.reportAll handling (Key.all.map setting)).2 = .ok ()) :
    (configure handling setting d).2 = d.withModes setting :=
  configureKeys_of_ok _ d h

/-- What a new mode leaves alone is left alone by the modes of any keys, also when the log fails at
one of them. -/
lemma configureKeys_induction {I : Dispatcher → Prop} (hstep : ∀ d m k, I d → I (d.setMode m k))
    (keys : List Key) (hd : I d) : I (configureKeys handling setting keys d).2 := by
  induction keys generalizing d with
  | nil => exact hd
  | cons k rest ih =>
    rw [configureKeys]
    split
    · exact hd
    · exact ih (hstep d _ k hd)

/-- **The dispatcher keeps its setting for lines** when the modes change. -/
theorem multiline_configure : (configure handling setting d).2.multiline = d.multiline := by
  refine configureKeys_induction (I := fun d' => d'.multiline = d.multiline) ?_ _ rfl
  rintro d' m k h
  cases k <;> exact h

/-- **The channels keep their phases.** -/
theorem phase_configure (k : Key) :
    ((configure handling setting d).2.channel k).phase = (d.channel k).phase := by
  refine configureKeys_induction
    (I := fun d' => (d'.channel k).phase = (d.channel k).phase) ?_ _ rfl
  rintro d' m k' h
  cases k <;> cases k' <;> exact h

end Dispatcher

end Shorthand
