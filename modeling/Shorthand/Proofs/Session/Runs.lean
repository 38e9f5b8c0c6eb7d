import Shorthand.Proofs.Bus.Delivery
import Shorthand.Proofs.Host.Turns
import Shorthand.Session.Basic

set_option autoImplicit false
set_option relaxedAutoImplicit false

/-!
# Runs of the application

A run ends with a result or a failure, and leaves a state in either case, or it has no result at
all. Two things are said about runs: that they keep an invariant, whatever comes of them, and that
they return a value, if they end.

## Main definitions

* `Shorthand.Run.Keeps` — a run keeps an invariant, also when it fails.
* `Shorthand.Run.Returns` — a run does not fail, and returns a value with a property.

## Main results

* `Shorthand.Run.Keeps.bind`, `Shorthand.Run.Returns.bind` — one run after the other.
* `Shorthand.Run.returns_edit` — an edit of the document as a run.
-/

namespace Shorthand.Run

open Session

variable {α β : Type} {ends : Prop}

/-! ## The parts of a run -/

/-- The run of one after the other: a failure of the first ends it. -/
lemma run_bind (x : Run α) (f : α → Run β) (s : Session) :
    (x >>= f).run.run s = (x.run.run s).bind fun r =>
      match r with
      | (.ok a, s') => (f a).run.run s'
      | (.error e, s') => some (.error e, s') := by
  show (x.run.run s).bind _ = _
  congr 1
  funext r
  obtain ⟨result, s'⟩ := r
  cases result <;> rfl

/-- The run of what is done with the state. -/
lemma run_get_bind (f : Session → Run β) (s : Session) :
    ((get : Run Session) >>= f).run.run s = (f s).run.run s := by
  rw [run_bind]
  rfl

/-- The run of what comes after a change of the whole state. -/
lemma run_set_bind (s' : Session) (x : Run β) (s : Session) :
    (do set s'; x : Run β).run.run s = x.run.run s' := by
  rw [run_bind]
  rfl

/-- The run of what is made of a value. -/
lemma run_map (f : α → β) (x : Run α) (s : Session) :
    (f <$> x).run.run s = (x.run.run s).map fun (result, s') => (result.map f, s') := by
  rw [map_eq_pure_bind, run_bind]
  cases x.run.run s with
  | none => rfl
  | some r =>
    obtain ⟨result, s'⟩ := r
    cases result <;> rfl

/-- The run of a result that was computed with a log. -/
lemma run_take (r : Log × Except Failure α) (s : Session) :
    (take r).run.run s = some (r.2, report r.1 s) := by
  obtain ⟨log, result⟩ := r
  cases result <;> rfl

/-- The run of an edit. -/
lemma run_edit (e : Edit α) (s : Session) :
    (edit e).run.run s =
      match e s.host with
      | .ok a h => some (.ok a, { s with host := h })
      | .error f h => some (.error f, { s with host := h }) := by
  unfold edit
  rw [run_get_bind]
  cases e s.host <;> rfl

/-- The run of what the events do. -/
lemma run_afterEvents (f : Session → Option Session) (s : Session) :
    (afterEvents f).run.run s = (f s).map fun s' => (.ok (), s') := by
  unfold afterEvents
  rw [run_get_bind, run_bind]
  cases f s <;> rfl

/-- The run of what is done after a change of the state. -/
lemma run_modify_bind (f : Session → Session) (x : Run α) (s : Session) :
    (do modify f; x : Run α).run.run s = x.run.run (f s) := by
  rw [run_bind]
  rfl

/-- The run of what is done with a result that was computed with a log: a failure ends it. -/
lemma run_take_bind (r : Log × Except Failure α) (f : α → Run β) (s : Session) :
    (take r >>= f).run.run s =
      match r.2 with
      | .ok a => (f a).run.run (report r.1 s)
      | .error e => some (.error e, report r.1 s) := by
  rw [run_bind, run_take]
  cases r.2 <;> rfl

/-- The run of what is done after events. -/
lemma run_afterEvents_bind (f : Session → Option Session) (x : Run α) (s : Session) :
    (do afterEvents f; x).run.run s = (f s).bind fun s' => x.run.run s' := by
  rw [run_bind, run_afterEvents]
  cases f s <;> rfl

/-- A run whose result is not used is one with something after it. -/
lemma discard_eq_bind (x : Run α) : discard x = x >>= fun _ => pure PUnit.unit := by
  rw [Functor.discard, map_const]
  exact map_eq_pure_bind _ _

/-- The run of it. -/
lemma run_discard (x : Run α) (s : Session) :
    (discard x).run.run s = (x.run.run s).map fun r => (r.1.map fun _ => (), r.2) := by
  rw [Functor.discard, map_const]
  exact run_map _ x s

/-! ## Invariants -/

section Keeps

variable {I : Session → Prop}

/-- The run keeps the invariant `I`, whether it comes to its end or fails; it has no result at all
only when `ends` does not hold. -/
def Keeps (ends : Prop) (I : Session → Prop) (r : Run α) : Prop :=
  ∀ s, I s → Leads ends (fun x => I x.2) (r.run.run s)

/-- What does nothing keeps everything. -/
lemma keeps_pure (a : α) : Keeps ends I (pure a : Run α) := fun _ hI => hI

/-- So does what fails at once. -/
lemma keeps_throw (f : Failure) : Keeps ends I (throw f : Run α) := fun _ hI => hI

/-- A look at the state keeps everything. -/
lemma keeps_get : Keeps ends I (get : Run Session) := fun _ hI => hI

/-- A change keeps what it is said to keep. -/
lemma keeps_modify {f : Session → Session} (hf : ∀ s, I s → I (f s)) :
    Keeps ends I (modify f : Run Unit) := fun s hI => hf s hI

/-- **What two runs keep is kept by the one after the other.** -/
theorem Keeps.bind {x : Run α} {f : α → Run β} (hx : Keeps ends I x)
    (hf : ∀ a, Keeps ends I (f a)) : Keeps ends I (x >>= f) := by
  intro s hI
  rw [run_bind]
  refine (hx s hI).bind fun r hr => ?_
  obtain ⟨result, s'⟩ := r
  cases result with
  | ok a => exact hf a s' hr
  | error e => exact hr

/-- A run whose result is not used. -/
lemma Keeps.discard {x : Run α} (hx : Keeps ends I x) : Keeps ends I (discard x) := by
  rw [discard_eq_bind]
  exact hx.bind fun _ => keeps_pure _

/-- A result that was computed with a log leaves no more than its log. -/
lemma keeps_take (hreport : ∀ log s, I s → I (report log s)) (r : Log × Except Failure α) :
    Keeps ends I (take r) := by
  refine (keeps_modify (hreport r.1)).bind fun _ => ?_
  split
  · exact keeps_pure _
  · exact keeps_throw _

/-- What does not depend on the host is kept by every edit. -/
lemma keeps_edit (hhost : ∀ s h, I s → I { s with host := h }) (e : Edit α) :
    Keeps ends I (edit e) := by
  intro s hI
  rw [run_edit]
  cases e s.host with
  | ok a h => exact hhost s h hI
  | error f h => exact hhost s h hI

/-- What the events keep is kept by the run that emits them. -/
lemma keeps_afterEvents {f : Session → Option Session} (hf : ∀ s, I s → Leads ends I (f s)) :
    Keeps ends I (afterEvents f) := by
  intro s hI
  rw [run_afterEvents]
  refine Leads.map ?_
  exact hf s hI

end Keeps

/-! ## Values -/

section Returns

variable {s : Session} {Q : β → Session → Prop}

/-- The run from the state `s` does not fail: it returns a value and leaves a state with the
property `Q`. It has no result at all only when `ends` does not hold. -/
def Returns (ends : Prop) (s : Session) (r : Run β) (Q : β → Session → Prop) : Prop :=
  Leads ends (fun x => ∃ b, x.1 = .ok b ∧ Q b x.2) (r.run.run s)

/-- What does nothing returns at once. -/
lemma returns_pure {b : β} (h : Q b s) : Returns ends s (pure b) Q := ⟨b, rfl, h⟩

/-- **One run after the other:** the second starts from what the first leaves. -/
theorem Returns.bind {x : Run α} {f : α → Run β} {P : α → Session → Prop}
    (hx : Returns ends s x P) (hf : ∀ a s', P a s' → Returns ends s' (f a) Q) :
    Returns ends s (x >>= f) Q := by
  unfold Returns
  rw [run_bind]
  refine Leads.bind hx fun r hr => ?_
  obtain ⟨result, s'⟩ := r
  obtain ⟨a, rfl, ha⟩ := hr
  exact hf a s' ha

/-- What is done with the state starts from it. -/
lemma returns_get_bind {f : Session → Run β} (h : Returns ends s (f s) Q) :
    Returns ends s ((get : Run Session) >>= f) Q := by
  unfold Returns
  rw [run_get_bind]
  exact h

/-- What is done after a change of the whole state starts from the new one. -/
lemma returns_set_bind {s' : Session} {x : Run β} (h : Returns ends s' x Q) :
    Returns ends s (do set s'; x) Q := by
  unfold Returns
  rw [run_set_bind]
  exact h

/-- Entries in the log. -/
lemma returns_note (log : Log) : Returns ends s (note log) fun _ s' => s' = report log s :=
  ⟨(), rfl, rfl⟩

/-- **An edit of the document** returns what the edit ends with, and changes the host alone. -/
theorem returns_edit {e : Edit α} {d d' : Document} {a : α} (he : e.Turns d a d')
    (hh : s.host.Holds d) :
    Returns ends s (edit e) fun b s' =>
      b = a ∧ ∃ h, h.Holds d' ∧ s' = { s with host := h } := by
  obtain ⟨h, hok, hh'⟩ := he s.host hh
  unfold Returns
  rw [run_edit, hok]
  exact ⟨a, rfl, rfl, h, hh', rfl⟩

/-- What the events lead to is what their run leaves. -/
lemma returns_afterEvents {f : Session → Option Session} {I : Session → Prop}
    (hf : Leads ends I (f s)) : Returns ends s (afterEvents f) fun _ s' => I s' := by
  unfold Returns
  rw [run_afterEvents]
  refine Leads.map ?_
  exact hf.mono fun s' hI => ⟨(), rfl, hI⟩

end Returns

end Shorthand.Run
