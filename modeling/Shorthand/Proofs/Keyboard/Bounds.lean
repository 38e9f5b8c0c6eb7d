import Shorthand.Keyboard
import Shorthand.Proofs.Trigger.Stages

set_option autoImplicit false
set_option relaxedAutoImplicit false

/-!
# The cursor is always in the text

Moving the cursor moves it into the text, but a replacement only adds and takes away what the text
has gained and lost. So the cursor stays in the text because it was there before, and it does so
at every call of an edit that is made of several: wherever the host refuses one of them, the
cursor is in the text that there is by then.

## Main definitions

* `Shorthand.Document.movedCursor` — where a replacement moves the cursor, counted in integers.
* `Shorthand.Edit.Maintains` — an edit keeps a property of documents, wherever it stops.
* `Shorthand.Host.Step` — what can be done to a host.

## Main results

* `Shorthand.Document.cast_cursor_replaceRange` — no replacement takes the cursor before the start
  of the text.
* `Shorthand.Edit.Maintains.bind` — one edit after the other.
* `Shorthand.Host.valid_run` — no step takes the cursor out of the text.
* `Shorthand.Host.cursor_in_text` — so it is there after any steps.
-/

namespace Shorthand

/-! ## Moving the cursor in integers -/

namespace Document

/-- Where a replacement between two offsets moves the cursor, counted in integers: what the range
has lost is taken away from a cursor behind it without a look at where that ends. -/
def movedCursor (d : Document) (start stop : ℤ) (s : Text) : ℤ :=
  let a : ℤ := min (d.clamp start) (d.clamp stop)
  let b : ℤ := max (d.clamp start) (d.clamp stop)
  if b ≤ d.cursor then d.cursor + (s.length - (b - a))
  else if a < d.cursor then a + s.length
  else d.cursor

/-- **No replacement takes the cursor before the start of the text:** what it takes away stood
before the cursor. -/
theorem cast_cursor_replaceRange (d : Document) (start stop : ℤ) (s : Text) :
    ((d.replaceRange start stop s).cursor : ℤ) = d.movedCursor start stop s := by
  simp only [replaceRange, movedCursor]
  split_ifs <;> omega

end Document

/-! ## Properties that edits keep -/

namespace Edit

variable {α β : Type} {P : Document → Prop} {e : Edit α} {f : α → Edit β} {d : Document}

/-- The host that an edit leaves, whether it comes to its end or fails. -/
def left (e : Edit α) (h : Host) : Host :=
  match e h with
  | .ok _ h' => h'
  | .error _ h' => h'

/-- The edit keeps a property of documents: a host whose document has it is left with a document
that has it, whichever call that host refuses. -/
def Maintains (e : Edit α) (P : Document → Prop) : Prop :=
  ∀ h : Host, P h.document → P (e.left h).document

/-- **One edit after the other:** the second keeps the property from where the first leaves off,
and a failure of the first is where both end. -/
theorem Maintains.bind (he : e.Maintains P) (hf : ∀ a, (f a).Maintains P) :
    (e >>= f).Maintains P := by
  intro h hp
  have hfirst := he h hp
  have hboth : (e >>= f) h = EStateM.bind e f h := rfl
  rw [left] at hfirst ⊢
  rw [hboth, EStateM.bind]
  cases hrun : e h with
  | ok a h₁ =>
    rw [hrun] at hfirst
    exact hf a h₁ hfirst
  | error failure h₁ =>
    rw [hrun] at hfirst
    exact hfirst

/-- What does not touch the document keeps everything. -/
lemma maintains_of_document_left (he : ∀ h, (e.left h).document = h.document) : e.Maintains P := by
  intro h hp
  rw [he]
  exact hp

/-- What does nothing keeps everything. -/
lemma maintains_pure (a : α) : Maintains (pure a) P := maintains_of_document_left fun _ => rfl

/-- An edit that only reads leaves the document as it is, wherever it stops. -/
lemma Reads.document_left {h : Host} (he : e.Reads h.document) :
    (e.left h).document = h.document := by
  obtain ⟨calls, a, hmakes, hcalls⟩ := he
  rw [left]
  cases hmeet : Host.meet h.refusal calls with
  | ok r =>
    obtain ⟨h', hok, hdocument, -⟩ := hmakes.ends h r rfl hmeet
    rw [hok]
    exact hdocument
  | error d₁ =>
    obtain ⟨h', herror, hdocument⟩ := hmakes.stops h d₁ rfl hmeet
    rw [herror]
    exact hdocument.trans (eq_of_mem_found hcalls (Host.mem_of_meet hmeet))

/-- So it keeps everything. -/
lemma maintains_of_reads (he : ∀ d, e.Reads d) : e.Maintains P :=
  maintains_of_document_left fun h => (he h.document).document_left

end Edit

/-! ## The calls of a host -/

namespace Host

open Edit

/-- A call keeps everything by being counted, refused or not. -/
lemma maintains_attempt (m : Method) (P : Document → Prop) : (attempt m).Maintains P := by
  refine maintains_of_document_left fun h => ?_
  rw [left, attempt_eq]
  cases meet h.refusal [(m, h.document)] <;> rfl

/-- Keeping a call keeps everything. -/
lemma maintains_keep (c : Call) (P : Document → Prop) : (keep c).Maintains P :=
  maintains_of_document_left fun _ => rfl

/-- So does an entry in the log. -/
lemma maintains_note (entry : Log.Entry) (P : Document → Prop) : (note entry).Maintains P :=
  maintains_of_document_left fun _ => rfl

/-- A look at the document keeps everything. -/
lemma maintains_look (P : Document → Prop) : look.Maintains P :=
  maintains_of_document_left fun _ => rfl

/-- A call that changes the document keeps what the change keeps. -/
lemma maintains_changing {P : Document → Prop} {f : Document → Document} (hf : ∀ d, P d → P (f d))
    (m : Method) (c : Call) : Maintains (do keep c; attempt m; change f) P :=
  (maintains_keep c P).bind fun _ => (maintains_attempt m P).bind fun _ h hp => hf h.document hp

/-- Asking for the cursor keeps everything. -/
lemma maintains_getCursor (P : Document → Prop) : getCursor.Maintains P :=
  maintains_of_reads fun d => reads_read _ _ d

/-- So does asking for a position. -/
lemma maintains_offsetToPos (offset : ℤ) (P : Document → Prop) : (offsetToPos offset).Maintains P :=
  maintains_of_reads fun d => reads_read _ _ d

/-- Asking for the end of a line keeps everything. -/
lemma maintains_lineEndOffset (line : ℤ) (P : Document → Prop) : (lineEndOffset line).Maintains P :=
  maintains_of_reads fun d => (reads_read _ _ d).bind fun _ => reads_read _ _ d

/-- The cursor moves to a place in the text. -/
lemma maintains_valid_setCursor (offset : ℤ) : (setCursor offset).Maintains Document.Valid :=
  maintains_changing (fun d _ => d.valid_setCursor offset) _ _

/-- A replacement leaves the cursor in the text. -/
lemma maintains_valid_replaceRange (start stop : ℤ) (s : Text) :
    (replaceRange start stop s).Maintains Document.Valid :=
  maintains_changing (fun _ hd => Document.valid_replaceRange hd start stop s) _ _

/-- Indenting is a replacement, which leaves the cursor in the text. -/
lemma maintains_valid_indent : indent.Maintains Document.Valid :=
  (maintains_keep _ _).bind fun _ => (maintains_attempt _ _).bind fun _ =>
    (maintains_look _).bind fun _ => maintains_valid_replaceRange _ _ _

/-- So is taking an indentation away, if there is one. -/
lemma maintains_valid_unindent : unindent.Maintains Document.Valid := by
  refine (maintains_keep _ _).bind fun _ => (maintains_attempt _ _).bind fun _ =>
    (maintains_look _).bind fun d => ?_
  cases d.indentStart? with
  | none => exact maintains_pure ()
  | some start => exact maintains_valid_replaceRange _ _ _

end Host

/-! ## Triggers and keys -/

open Edit Host

/-- Trying a trigger leaves the cursor in the text, wherever its expansion wants it. -/
lemma Match.maintains_valid_tryTrigger (offset : ℤ) (snippets : Entries Expansion)
    (multiline : Bool) :
    (tryTrigger offset snippets multiline).Maintains Document.Valid := by
  refine (maintains_of_reads fun d => reads_find d offset snippets multiline).bind fun found => ?_
  cases found with
  | none => exact maintains_pure none
  | some m =>
    have hexpand : (expand offset m).Maintains Document.Valid :=
      (maintains_valid_replaceRange _ _ _).bind fun _ => (maintains_valid_setCursor _).bind fun _ =>
        maintains_note _ _
    exact hexpand.bind fun _ => maintains_pure _

namespace Channel

/-- The channel of Tab leaves the cursor in the text. -/
lemma maintains_valid_tabEdit (whitespace : Bool) (snippets : Entries Expansion)
    (multiline : Bool) :
    (tabEdit whitespace snippets multiline).Maintains Document.Valid := by
  refine maintains_valid_unindent.bind fun _ => (maintains_getCursor _).bind fun cursor => ?_
  refine (Match.maintains_valid_tryTrigger cursor snippets multiline).bind fun found => ?_
  cases found with
  | none => exact maintains_valid_indent.bind fun _ => maintains_pure none
  | some snippet =>
    dsimp only
    split_ifs
    · exact maintains_valid_indent.bind fun _ => maintains_pure _
    · exact maintains_pure _

/-- So does taking back the line break that was typed. -/
lemma maintains_valid_removeBreak (offset hostCursor : ℤ) (whitespace : Bool) (s : Snippet) :
    (removeBreak offset hostCursor whitespace s).Maintains Document.Valid := by
  refine (maintains_getCursor _).bind fun cursor =>
    (maintains_valid_replaceRange _ _ _).bind fun _ =>
    (maintains_valid_setCursor _).bind fun _ => ?_
  split_ifs
  · exact (maintains_valid_replaceRange _ _ _).bind fun _ => maintains_valid_setCursor _
  · exact maintains_pure ()

/-- The channel of Enter leaves the cursor in the text, also where it takes a line break back. -/
lemma maintains_valid_enterEdit (whitespace : Bool) (snippets : Entries Expansion)
    (multiline : Bool) :
    (enterEdit whitespace snippets multiline).Maintains Document.Valid := by
  refine (maintains_getCursor _).bind fun hostCursor =>
    (maintains_offsetToPos _ _).bind fun position => ?_
  obtain ⟨line, column⟩ := position
  dsimp only
  split_ifs
  · exact maintains_pure none
  · refine (maintains_lineEndOffset _ _).bind fun offset => ?_
    refine (Match.maintains_valid_tryTrigger offset snippets multiline).bind fun found => ?_
    cases found with
    | none => exact (maintains_valid_setCursor _).bind fun _ => maintains_pure none
    | some snippet => exact (maintains_valid_removeBreak _ _ _ _).bind fun _ => maintains_pure _

/-- **The channel of every key** leaves the cursor in the text. -/
theorem maintains_valid_keyEdit (c : Channel) (k : Key) (snippets : Entries Expansion)
    (multiline : Bool) :
    (c.keyEdit k snippets multiline).Maintains Document.Valid := by
  cases k with
  | space =>
    exact (maintains_getCursor _).bind fun cursor =>
      Match.maintains_valid_tryTrigger cursor snippets multiline
  | tab => exact maintains_valid_tabEdit _ snippets multiline
  | enter => exact maintains_valid_enterEdit _ snippets multiline

end Channel

/-- A press that was delivered leaves the cursor in the text, whether or not it is handled. -/
lemma Dispatcher.valid_dispatch (dispatcher : Dispatcher) (t : Table) (p : KeyPress) {h : Host}
    (hd : h.document.Valid) : (dispatcher.dispatch t p h).2.2.document.Valid := by
  cases hroute : dispatcher.route p with
  | none =>
    rw [dispatch_of_not_routed hroute]
    exact hd
  | some k =>
    have hedit :=
      (dispatcher.channel k).maintains_valid_keyEdit k t.snippets dispatcher.multiline h hd
    rw [left] at hedit
    rw [dispatch_of_routed hroute]
    cases hrun : (dispatcher.channel k).keyEdit k t.snippets dispatcher.multiline h with
    | ok found h' =>
      rw [hrun] at hedit
      exact hedit
    | error failure h' =>
      rw [hrun] at hedit
      exact hedit

namespace Keyboard

/-- What the host does at a key before it tells of it leaves the cursor in the text. -/
lemma maintains_valid_before (key : Text) : (before key).Maintains Document.Valid := by
  unfold before
  split
  · exact maintains_pure ()
  · exact maintains_valid_indent
  · exact (maintains_getCursor _).bind fun _ => (maintains_offsetToPos _ _).bind fun _ =>
      (maintains_getCursor _).bind fun _ => (maintains_look _).bind fun _ =>
        maintains_valid_replaceRange _ _ _
  · exact maintains_note _ _

/-- So does what it does afterwards. -/
lemma maintains_valid_after (key : Text) : (after key).Maintains Document.Valid := by
  unfold after
  split
  · exact (maintains_getCursor _).bind fun _ => maintains_valid_replaceRange _ _ _
  · exact maintains_pure ()

/-- A press leaves the cursor in the text, also when the host's own calls fail. -/
lemma valid_press (dispatcher : Dispatcher) (t : Table) (p : KeyPress) {h : Host}
    (hd : h.document.Valid) :
    (press dispatcher t p h).2.2.document.Valid := by
  have hbefore := maintains_valid_before p.key h hd
  rw [left] at hbefore
  rw [press]
  cases hrun : before p.key h with
  | error failure h₁ =>
    rw [hrun] at hbefore
    exact hbefore
  | ok _ h₁ =>
    rw [hrun] at hbefore
    have hafter := maintains_valid_after p.key _ (dispatcher.valid_dispatch t p hbefore)
    rw [left] at hafter
    dsimp only
    cases hrun' : after p.key (dispatcher.dispatch t p h₁).2.2 with
    | ok _ h₂ =>
      rw [hrun'] at hafter
      exact hafter
    | error failure h₂ =>
      rw [hrun'] at hafter
      exact hafter

end Keyboard

/-! ## Any steps -/

namespace Host

/-- What can be done to a host: a changing call, a trigger that is tried, a key that is pressed or
that was delivered, each with whatever arguments, table, modes and phases. Before any of them it
may be set which call the host is to refuse. -/
inductive Step where
  | refuse (r : Option Refusal)
  | setCursor (offset : ℤ)
  | replaceRange (start stop : ℤ) (replacement : Text)
  | indent
  | unindent
  | tryTrigger (offset : ℤ) (snippets : Entries Expansion) (multiline : Bool)
  | press (dispatcher : Dispatcher) (t : Table) (p : KeyPress)
  | dispatch (dispatcher : Dispatcher) (t : Table) (p : KeyPress)

/-- The host after a step, whether that came to its end or failed. -/
def Step.run : Step → Host → Host
  | .refuse r, h => { h with refusal := r }
  | .setCursor offset, h => (Host.setCursor offset).left h
  | .replaceRange start stop replacement, h => (Host.replaceRange start stop replacement).left h
  | .indent, h => Host.indent.left h
  | .unindent, h => Host.unindent.left h
  | .tryTrigger offset snippets multiline, h => (Match.tryTrigger offset snippets multiline).left h
  | .press dispatcher t p, h => (Keyboard.press dispatcher t p h).2.2
  | .dispatch dispatcher t p, h => (dispatcher.dispatch t p h).2.2

/-- **No step takes the cursor out of the text.** -/
theorem valid_run (step : Step) {h : Host} (hd : h.document.Valid) :
    (step.run h).document.Valid := by
  cases step with
  | refuse r => exact hd
  | setCursor offset => exact maintains_valid_setCursor offset h hd
  | replaceRange start stop replacement =>
    exact maintains_valid_replaceRange start stop replacement h hd
  | indent => exact maintains_valid_indent h hd
  | unindent => exact maintains_valid_unindent h hd
  | tryTrigger offset snippets multiline =>
    exact Match.maintains_valid_tryTrigger offset snippets multiline h hd
  | press dispatcher t p => exact Keyboard.valid_press dispatcher t p hd
  | dispatch dispatcher t p => exact dispatcher.valid_dispatch t p hd

/-- **The cursor is always in the text:** whatever document a host starts with and whatever is
done to it, with calls refused anywhere on the way. Where a replacement moves it to from there is
in the text as well when that is counted in integers, which know no bounds. -/
theorem cursor_in_text (h : Host) (text : Text) (cursor : Option ℤ) (indentUnit : Text)
    (steps : List Step) :
    let start : Host := { h with document := .new text cursor indentUnit }
    let d := (steps.foldl (fun h step => step.run h) start).document
    0 ≤ (d.cursor : ℤ) ∧ (d.cursor : ℤ) ≤ d.text.length ∧
      ∀ (first last : ℤ) (s : Text),
        let d' := d.replaceRange first last s
        (d'.cursor : ℤ) = d.movedCursor first last s ∧
          0 ≤ d.movedCursor first last s ∧ d.movedCursor first last s ≤ d'.text.length := by
  intro start d
  have hsteps : d.Valid := by
    refine List.foldlRecOn (motive := fun h : Host => h.document.Valid) steps _
      (Document.valid_new _ _ _) ?_
    exact fun h hd step _ => valid_run step hd
  refine ⟨Int.natCast_nonneg _, Int.ofNat_le.mpr hsteps, fun first last s => ?_⟩
  rw [← Document.cast_cursor_replaceRange]
  exact ⟨rfl, Int.natCast_nonneg _,
    Int.ofNat_le.mpr (Document.valid_replaceRange hsteps first last s)⟩

end Host

end Shorthand
