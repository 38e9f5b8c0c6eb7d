import Shorthand.Proofs.Host.Turns

set_option autoImplicit false
set_option relaxedAutoImplicit false

/-!
# What a host keeps of an edit

A host keeps the changing calls that are made, in order and with their arguments as given, and
what is written to the log. On a host that refuses nothing an edit adds to both, and what it adds
is a matter of documents alone, as what it makes of the document is.

## Main definitions

* `Shorthand.Host.after` — a host after an edit.
* `Shorthand.Edit.Leaves` — an edit leaves a document, and the host keeps some calls and some log
  of it.

## Main results

* `Shorthand.Edit.Leaves.bind` — one edit after the other.
* `Shorthand.Host.leaves_setCursor`, `Shorthand.Host.leaves_replaceRange` — the calls that edits
  are made of.
-/

namespace Shorthand

namespace Host

variable {h : Host} {d : Document}

/-- A host after an edit: it holds another document, and has kept more calls and more of the log. -/
def after (h : Host) (d : Document) (calls : List Call) (log : Log) : Host :=
  { h with document := d, calls := h.calls ++ calls, log := h.log ++ log }

/-- After an edit a host that refuses nothing does not refuse anything either. -/
lemma Holds.after (hh : h.Holds d) (d' : Document) (calls : List Call) (log : Log) :
    (h.after d' calls log).Holds d' := ⟨rfl, hh.refusal⟩

/-- A host after an edit of which nothing is left. -/
lemma Holds.after_nil (hh : h.Holds d) : h.after d [] [] = h := by
  obtain ⟨rfl, -⟩ := hh
  simp [Host.after]

/-- A host after two edits. -/
lemma after_after (h : Host) (d d' : Document) (calls more : List Call) (log moreLog : Log) :
    (h.after d calls log).after d' more moreLog = h.after d' (calls ++ more) (log ++ moreLog) := by
  simp [after]

end Host

namespace Edit

variable {α β : Type} {e : Edit α} {f : α → Edit β} {a : α} {b : β} {d d₁ d₂ : Document}
variable {calls more : List Host.Call} {log moreLog : Log}

/-- The edit `e` ends with `a` on every host that holds `d` and refuses nothing. It leaves the
document `d'` there, and the host keeps these calls and this log of it. -/
def Leaves (e : Edit α) (d : Document) (a : α) (d' : Document) (calls : List Host.Call)
    (log : Log) : Prop :=
  ∀ h : Host, h.Holds d → e h = .ok a (h.after d' calls log)

/-- Nothing is kept of looking. -/
lemma Sees.leaves (he : e.Sees d a) : e.Leaves d a d [] [] :=
  fun h hh => by rw [he h hh, hh.after_nil]

/-- **One edit after the other:** the host keeps what it keeps of both. -/
theorem Leaves.bind (he : e.Leaves d a d₁ calls log) (hf : (f a).Leaves d₁ b d₂ more moreLog) :
    (e >>= f).Leaves d b d₂ (calls ++ more) (log ++ moreLog) := by
  intro h hh
  show EStateM.bind e f h = _
  rw [EStateM.bind, he h hh, ← Host.after_after]
  exact hf _ (hh.after d₁ calls log)

/-- What comes after looking is kept alone. -/
lemma Sees.bind_leaves (he : e.Sees d a) (hf : (f a).Leaves d b d₂ calls log) :
    (e >>= f).Leaves d b d₂ calls log := fun h hh => (he.run_bind hh).trans (hf h hh)

/-- An edit with a result of its own at the end. -/
lemma Leaves.bind_pure (he : e.Leaves d a d₁ calls log) (b : β) :
    (e >>= fun _ => pure b).Leaves d b d₁ calls log := by
  have hboth := he.bind (f := fun _ => pure b) (sees_pure d₁ b).leaves
  rwa [List.append_nil, List.append_nil] at hboth

end Edit

namespace Host

open Edit

/-- A changing call is kept, and does what it does to the document. -/
private lemma leaves_changing (m : Method) (c : Call) (f : Document → Document) (d : Document) :
    Leaves (do keep c; attempt m; change f) d () (f d) [c] [] := by
  rintro ⟨_, _, calls, log⟩ ⟨rfl, rfl⟩
  simp [keep, attempt, change, after, bind, EStateM.bind]

/-- Moving the cursor is kept as one call. -/
lemma leaves_setCursor (d : Document) (offset : Int) :
    (setCursor offset).Leaves d () (d.setCursor offset) [.setCursor offset] [] :=
  leaves_changing .setCursor (.setCursor offset) (fun d => d.setCursor offset) d

/-- So is a replacement. -/
lemma leaves_replaceRange (d : Document) (start stop : Int) (s : Text) :
    (replaceRange start stop s).Leaves d () (d.replaceRange start stop s)
    [.replaceRange start stop s] [] :=
  leaves_changing .replaceRange (.replaceRange start stop s)
    (fun d => d.replaceRange start stop s) d

end Host

end Shorthand
