import Mathlib.Tactic.Lemma
import Shorthand.Host

set_option autoImplicit false
set_option relaxedAutoImplicit false

/-!
# Edits of documents

On a host that refuses nothing an edit always comes to its end, and what comes of it is a matter
of documents alone: neither the calls that were kept nor the log that was written come into it. So
an edit can be read as turning one document into another.

## Main definitions

* `Shorthand.Host.Holds` — a host holds a document and refuses nothing.
* `Shorthand.Edit.Turns` — an edit turns one document into another.
* `Shorthand.Edit.Sees` — an edit only looks at a document.

## Main results

* `Shorthand.Edit.Turns.bind` — one edit after the other.
* `Shorthand.Host.turns_setCursor`, … — what every call makes of a document.
-/

namespace Shorthand

/-- The host holds the document `d`, and refuses nothing. -/
structure Host.Holds (h : Host) (d : Document) : Prop where
  document : h.document = d
  refusal : h.refusal = none

namespace Edit

variable {α β : Type}

/-- The edit `e` ends with the result `a` and turns the document `d` into `d'`, on every host that
holds `d` and refuses nothing. -/
def Turns (e : Edit α) (d : Document) (a : α) (d' : Document) : Prop :=
  ∀ h : Host, h.Holds d → ∃ h', e h = .ok a h' ∧ h'.Holds d'

/-- What does nothing turns a document into itself. -/
lemma turns_pure (d : Document) (a : α) : Turns (pure a) d a d := fun h hh => ⟨h, rfl, hh⟩

/-- Two edits one after the other come to an end when the second does with what the first ends
with. -/
lemma bind_eq_ok {e : Edit α} {f : α → Edit β} {h h' : Host} {b : β} :
    (e >>= f) h = .ok b h' ↔ ∃ a h₁, e h = .ok a h₁ ∧ f a h₁ = .ok b h' := by
  change EStateM.bind e f h = _ ↔ _
  rw [EStateM.bind]
  cases e h <;> simp [and_assoc]

/-- **One edit after the other:** the second starts with what the first ends with. -/
theorem Turns.bind {e : Edit α} {f : α → Edit β} {d d₁ d₂ : Document} {a : α} {b : β}
    (he : e.Turns d a d₁) (hf : (f a).Turns d₁ b d₂) : Turns (e >>= f) d b d₂ := by
  intro h hh
  obtain ⟨h₁, he, hh₁⟩ := he h hh
  obtain ⟨h₂, hf, hh₂⟩ := hf h₁ hh₁
  exact ⟨h₂, bind_eq_ok.mpr ⟨a, h₁, he, hf⟩, hh₂⟩

/-- An edit has one result. -/
lemma Turns.eq_of_ok {e : Edit α} {d d' : Document} {a b : α} {h h' : Host} (he : e.Turns d a d')
    (hh : h.Holds d) (hb : e h = .ok b h') : a = b := by
  obtain ⟨h₁, ha, -⟩ := he h hh
  rw [hb] at ha
  cases ha
  rfl

end Edit

namespace Host

open Edit

/-! ## The parts of a call -/

/-- A call that is not refused changes nothing by being counted. -/
lemma turns_attempt (d : Document) (m : Method) : (attempt m).Turns d () d := by
  rintro h ⟨rfl, hr⟩
  refine ⟨h, ?_, rfl, hr⟩
  simp [attempt, hr]

/-- Keeping a call leaves the document as it is. -/
lemma turns_keep (d : Document) (c : Call) : (keep c).Turns d () d := by
  rintro h ⟨rfl, hr⟩
  exact ⟨_, rfl, rfl, hr⟩

/-- So does an entry in the log. -/
lemma turns_note (d : Document) (e : Log.Entry) : (note e).Turns d () d := by
  rintro h ⟨rfl, hr⟩
  exact ⟨_, rfl, rfl, hr⟩

/-- A look shows the document. -/
lemma turns_look (d : Document) : look.Turns d d d := by
  rintro h ⟨rfl, hr⟩
  exact ⟨h, rfl, rfl, hr⟩

/-- A change changes the document. -/
lemma turns_change (d : Document) (f : Document → Document) : (change f).Turns d () (f d) := by
  rintro h ⟨rfl, hr⟩
  exact ⟨_, rfl, rfl, hr⟩

/-! ## Reading -/

/-- A call that reads gives what it reads. -/
private lemma turns_read {α : Type} (m : Method) (f : Document → α) (d : Document) :
    Turns (do attempt m; return f (← look)) d (f d) d :=
  (turns_attempt d m).bind ((turns_look d).bind (turns_pure d (f d)))

/-- The cursor of the host is that of its document. -/
lemma turns_getCursor (d : Document) : getCursor.Turns d d.cursor d :=
  turns_read .getCursor (fun d => (d.cursor : Int)) d

/-- The host finds positions in its document. -/
lemma turns_offsetToPos (d : Document) (offset : Int) :
    (offsetToPos offset).Turns d (d.offsetToPos offset) d :=
  turns_read .offsetToPos (fun d => d.offsetToPos offset) d

/-- It finds offsets there as well. -/
lemma turns_posToOffset (d : Document) (line column : Int) :
    (posToOffset line column).Turns d (d.posToOffset line column) d :=
  turns_read .posToOffset (fun d => (d.posToOffset line column : Int)) d

/-- It reads ranges of its text. -/
lemma turns_getRange (d : Document) (start stop : Int) :
    (getRange start stop).Turns d (d.getRange start stop) d :=
  turns_read .getRange (fun d => d.getRange start stop) d

/-- It measures the lines of its text. -/
lemma turns_lineLength (d : Document) (line : Int) :
    (lineLength line).Turns d (d.lineLength line) d :=
  turns_read .lineLength (fun d => (d.lineLength line : Int)) d

/-- It finds the end of a line by its length. -/
lemma turns_lineEndOffset (d : Document) (line : Int) :
    (lineEndOffset line).Turns d (d.lineEndOffset line) d :=
  (turns_lineLength d line).bind (turns_posToOffset d line _)

/-! ## Editing -/

/-- The host moves the cursor of its document. -/
lemma turns_setCursor (d : Document) (offset : Int) :
    (setCursor offset).Turns d () (d.setCursor offset) :=
  (turns_keep d _).bind ((turns_attempt d _).bind (turns_change d _))

/-- It replaces a range of it. -/
lemma turns_replaceRange (d : Document) (start stop : Int) (s : Text) :
    (replaceRange start stop s).Turns d () (d.replaceRange start stop s) :=
  (turns_keep d _).bind ((turns_attempt d _).bind (turns_change d _))

/-- It indents the line of the cursor, by a replacement. -/
lemma turns_indent (d : Document) : indent.Turns d () d.indent := by
  refine (turns_keep d _).bind ((turns_attempt d _).bind ((turns_look d).bind ?_))
  exact turns_replaceRange d _ _ _

/-- It takes an indentation away, by a replacement if there is one. -/
lemma turns_unindent (d : Document) : unindent.Turns d () d.unindent := by
  refine (turns_keep d _).bind ((turns_attempt d _).bind ((turns_look d).bind ?_))
  unfold Document.unindent
  cases d.indentStart? with
  | none => exact turns_pure d ()
  | some start => exact turns_replaceRange d _ _ _

end Host

/-! ## Looking -/

namespace Edit

variable {α β : Type} {d : Document} {a : α} {b : β} {e : Edit α} {f : α → Edit β}

/-- The edit `e` only looks: on every host that holds `d` and refuses nothing it ends with `a`,
and leaves that host as it is, with its calls and its log. -/
def Sees (e : Edit α) (d : Document) (a : α) : Prop := ∀ h : Host, h.Holds d → e h = .ok a h

/-- What does nothing only looks. -/
lemma sees_pure (d : Document) (a : α) : Sees (pure a) d a := fun _ _ => rfl

/-- What comes after looking starts with what was seen, on the same host. -/
lemma Sees.run_bind (he : e.Sees d a) {h : Host} (hh : h.Holds d) : (e >>= f) h = f a h := by
  show EStateM.bind e f h = _
  rw [EStateM.bind, he h hh]

/-- **Looking again.** -/
theorem Sees.bind (he : e.Sees d a) (hf : (f a).Sees d b) : Sees (e >>= f) d b := fun h hh =>
  (he.run_bind hh).trans (hf h hh)

/-- What is seen is the only result. -/
lemma Sees.turns (he : e.Sees d a) : e.Turns d a d := fun h hh => ⟨h, he h hh, hh⟩

end Edit

namespace Host

open Edit

/-- A call that reads only looks. -/
private lemma sees_read {α : Type} (m : Method) (f : Document → α) (d : Document) :
    Sees (do attempt m; return f (← look)) d (f d) := by
  have hattempt : (attempt m).Sees d () := fun h hh => by simp [attempt, hh.refusal]
  have hlook : look.Sees d d := fun h hh => by rw [look, hh.document]
  exact hattempt.bind (hlook.bind (sees_pure d (f d)))

/-- Asking for the cursor only looks. -/
lemma sees_getCursor (d : Document) : getCursor.Sees d d.cursor :=
  sees_read .getCursor (fun d => (d.cursor : Int)) d

/-- Asking for a position only looks. -/
lemma sees_offsetToPos (d : Document) (offset : Int) :
    (offsetToPos offset).Sees d (d.offsetToPos offset) :=
  sees_read .offsetToPos (fun d => d.offsetToPos offset) d

/-- Asking for an offset only looks. -/
lemma sees_posToOffset (d : Document) (line column : Int) :
    (posToOffset line column).Sees d (d.posToOffset line column) :=
  sees_read .posToOffset (fun d => (d.posToOffset line column : Int)) d

/-- Asking for a range of the text only looks. -/
lemma sees_getRange (d : Document) (start stop : Int) :
    (getRange start stop).Sees d (d.getRange start stop) :=
  sees_read .getRange (fun d => d.getRange start stop) d

/-- Asking for the end of a line asks for its length and for an offset. -/
lemma sees_lineEndOffset (d : Document) (line : Int) :
    (lineEndOffset line).Sees d (d.lineEndOffset line) :=
  (sees_read .lineLength (fun d => (d.lineLength line : Int)) d).bind (sees_posToOffset d line _)

end Host

end Shorthand
