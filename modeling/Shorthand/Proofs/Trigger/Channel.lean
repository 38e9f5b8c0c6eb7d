import Shorthand.Proofs.Match.Ending
import Shorthand.Trigger.Channel

set_option autoImplicit false
set_option relaxedAutoImplicit false

/-!
# What a channel does to a document

A channel passes through phases while it works, but no phase is ever looked at, so its work is an
edit of the host alone. On a host that refuses nothing the edit of each key has a closed form: it
expands the trigger that ends the text before a certain offset, or leaves the document as it is.

## Main definitions

* `Shorthand.Work.Does` — some work does to the host what an edit does.
* `Shorthand.Channel.keyEdit` — the edit that the work of a key does.
* `Shorthand.Document.unbroken` — a document without the line break that Enter put in.

## Main results

* `Shorthand.Channel.handle_eq` — a channel that runs does the edit of its key.
* `Shorthand.Channel.turns_spaceEdit`, `Shorthand.Channel.turns_tabEdit`,
  `Shorthand.Channel.turns_enterEdit` — what the edits make of a document.
* `Shorthand.Document.unbroken_eq_expanded` — what Enter put in goes without a trace.
-/

namespace Shorthand

/-! ## Work without phases -/

namespace Work

variable {α β : Type}

/-- What became of some work, seen from the host. -/
def onHost : EStateM.Result Failure Desk α → EStateM.Result Failure Host α
  | .ok a s => .ok a s.host
  | .error f s => .error f s.host

/-- Some work does to the host what an edit does, whatever phase it starts in. -/
def Does (x : Work α) (e : Edit α) : Prop := ∀ s, onHost (x s) = e s.host

/-- An edit within the work does itself. -/
lemma does_edit (e : Edit α) : Does (Channel.edit e) e := by
  intro s
  simp only [Channel.edit]
  split <;> simp_all [onHost]

/-- Work that does nothing does nothing to the host. -/
lemma does_pure (a : α) : Does (pure a) (pure a) := fun _ => rfl

/-- Going into a phase does nothing to the host. -/
lemma Does.enterPhase {x : Work α} {e : Edit α} (hx : Does x e) (p : Phase) :
    Does (do Channel.enterPhase p; x) e := fun s => hx { s with phase := p }

/-- Work after work does one edit after the other. -/
lemma Does.bind {x : Work α} {e : Edit α} {f : α → Work β} {g : α → Edit β} (hx : Does x e)
    (hf : ∀ a, Does (f a) (g a)) : Does (x >>= f) (e >>= g) := by
  intro s
  have hs := hx s
  show onHost (EStateM.bind x f s) = EStateM.bind e g s.host
  rw [EStateM.bind, EStateM.bind, ← hs]
  cases x s with
  | ok a s' => exact hf a s'
  | error f s' => rfl

end Work

namespace Channel

/-- The edit that the channel of Tab does. -/
def tabEdit (whitespace : Bool) (snippets : Entries Expansion) (multiline : Bool) :
    Edit (Option Snippet) := do
  Host.unindent
  let found ← Match.tryTrigger (← Host.getCursor) snippets multiline
  match found with
  | none => Host.indent
  | some snippet => if whitespace && snippet.shape == Shape.oneLine then Host.indent
  return found

/-- The edit that the channel of Enter does. -/
def enterEdit (whitespace : Bool) (snippets : Entries Expansion) (multiline : Bool) :
    Edit (Option Snippet) := do
  let hostCursor ← Host.getCursor
  let (line, _) ← Host.offsetToPos hostCursor
  if line = 0 then return none
  let offset ← Host.lineEndOffset (line - 1 : Nat)
  match ← Match.tryTrigger offset snippets multiline with
  | none =>
    Host.setCursor hostCursor
    return none
  | some snippet =>
    removeBreak offset hostCursor whitespace snippet
    return some snippet

/-- The edit that the channel of a key does. -/
def keyEdit (c : Channel) (k : Key) (snippets : Entries Expansion) (multiline : Bool) :
    Edit (Option Snippet) :=
  match k with
  | .space => do Match.tryTrigger (← Host.getCursor) snippets multiline
  | .tab => tabEdit c.keepsWhitespace snippets multiline
  | .enter => enterEdit c.keepsWhitespace snippets multiline

/-- The work of Enter does its edit: the phase that it goes into changes nothing of it. -/
lemma does_runEnter (whitespace : Bool) (snippets : Entries Expansion) (multiline : Bool) :
    (runEnter whitespace snippets multiline).Does (enterEdit whitespace snippets multiline) := by
  refine (Work.does_edit _).bind fun hostCursor => ?_
  refine (Work.does_edit _).bind fun position => ?_
  obtain ⟨line, column⟩ := position
  by_cases hline : line = 0
  · simp only [if_pos hline]
    exact Work.does_pure none
  · simp only [if_neg hline]
    refine (Work.does_edit _).bind fun offset => ?_
    refine (Work.does_edit _).bind fun found => ?_
    cases found with
    | none => exact (Work.does_edit _).bind fun _ => Work.does_pure none
    | some snippet =>
      exact ((Work.does_edit _).bind fun _ => Work.does_pure (some snippet)).enterPhase _

/-- **The work of a channel is the edit of its key.** -/
theorem does_run (c : Channel) (k : Key) (snippets : Entries Expansion) (multiline : Bool) :
    (c.run k snippets multiline).Does (c.keyEdit k snippets multiline) := by
  cases k with
  | space => exact Work.does_edit _
  | tab => exact (Work.does_edit _).enterPhase _
  | enter => exact does_runEnter _ _ _

/-- **A channel that runs does the edit of its key,** and is done whatever came of it. -/
theorem handle_eq (c : Channel) (k : Key) (snippets : Entries Expansion) (multiline : Bool)
    (h : Host) :
    c.handle k snippets multiline h =
      match c.keyEdit k snippets multiline h with
      | .ok found h => (.ok found, { c with phase := .done }, h)
      | .error f h => (.error f, { c with phase := .done }, h) := by
  have hdoes := does_run c k snippets multiline { phase := .awaiting, host := h }
  rw [handle, ← hdoes]
  cases c.run k snippets multiline { phase := .awaiting, host := h } <;> rfl

/-- A channel whose edit turns one document into another does so, and is done. -/
lemma handle_of_turns {c : Channel} {k : Key} {snippets : Entries Expansion} {multiline : Bool}
    {d d' : Document} {found : Option Snippet}
    (he : (c.keyEdit k snippets multiline).Turns d found d') {h : Host} (hh : h.Holds d) :
    ∃ h', c.handle k snippets multiline h = (.ok found, { c with phase := .done }, h') ∧
      h'.Holds d' := by
  obtain ⟨h', hok, hh'⟩ := he h hh
  refine ⟨h', ?_, hh'⟩
  rw [handle_eq, hok]

end Channel

/-! ## What the edits make of a document -/

/-- The document without what Enter put in behind an expansion at `offset` of the line above, and
with a bare line break at the cursor if white space stays. -/
def Document.unbroken (d : Document) (offset hostCursor : Int) (whitespace : Bool) (s : Snippet) :
    Document :=
  let delta : Int := s.expansion.text.length - s.trigger.length
  let d' := (d.replaceRange (offset + delta) (hostCursor + delta) []).setCursor d.cursor
  if whitespace then (d'.replaceRange d.cursor d.cursor ['\n']).setCursor (d.cursor + 1) else d'

/-- **What Enter put in goes without a trace:** the expansion is in the place of everything from its
trigger to the cursor of the host. -/
theorem Document.unbroken_eq_expanded {d : Document} {n c : Nat} {s : Snippet}
    (hs : s.trigger.length ≤ n) (hn : n ≤ c) (hc : c ≤ d.text.length) (whitespace : Bool) :
    (d.expanded (n - s.trigger.length) n s.expansion).unbroken n c whitespace s =
      let d' := d.expanded (n - s.trigger.length) c s.expansion
      if whitespace then d'.typed ['\n'] else d' := by
  have hstart : ((n : Int) + (s.expansion.text.length - s.trigger.length)) =
      (n - s.trigger.length + s.expansion.text.length : Nat) := by omega
  have hstop : ((c : Int) + (s.expansion.text.length - s.trigger.length)) =
      (n - s.trigger.length + s.expansion.text.length + (c - n) : Nat) := by omega
  have hcursor : (d.expanded (n - s.trigger.length) n s.expansion).cursor =
      (d.expanded (n - s.trigger.length) c s.expansion).cursor := rfl
  have hvalid := valid_expanded (d := d) (a := n - s.trigger.length) (by omega) c s.expansion
  have hline := valid_typed hvalid ['\n']
  simp only [unbroken, hstart, hstop]
  rw [replaceRange_expanded (Nat.sub_le _ _) hn hc, hcursor, replaceRange_cursor hvalid]
  split_ifs
  · exact setCursor_cursor hline
  · rfl

/-- The line above that of the cursor ends where the text above the last line break before the
cursor ends. -/
lemma Document.Valid.line_above {d : Document} (hd : d.Valid) {above line : Text}
    (hbefore : d.text.take d.cursor = above ++ '\n' :: line) (hline : '\n' ∉ line) :
    above.length ≤ d.text.length ∧ d.text.take above.length = above ∧
      (d.offsetToPos d.cursor).1 = Text.breaks above + 1 ∧
      d.lineEndOffset (Text.breaks above) = above.length := by
  have htext : d.text = above ++ '\n' :: (line ++ d.text.drop d.cursor) := by
    rw [← List.cons_append, ← List.append_assoc, ← hbefore, List.take_append_drop]
  refine ⟨?_, ?_, ?_, Document.lineEndOffset_breaks htext⟩
  · rw [htext, List.length_append]
    omega
  · rw [htext, List.take_left]
  · rw [Document.offsetToPos_fst hd, hbefore, Text.breaks_append, Text.breaks_break,
      Text.breaks_eq_zero.mpr hline]

namespace Channel

variable {d : Document} {snippets : Entries Expansion} {multiline : Bool}

/-- The space expands the trigger before the cursor. -/
lemma turns_spaceEdit (c : Channel) (hd : d.Valid) (snippets : Entries Expansion)
    (multiline : Bool) :
    (c.keyEdit .space snippets multiline).Turns d ((d.match? snippets multiline).map (·.snippet))
      (d.afterMatch d.cursor (d.match? snippets multiline)) :=
  (Host.turns_getCursor d).bind (Match.turns_tryTrigger hd snippets multiline)

/-- Tab looks for a trigger in the document without its indentation. -/
lemma turns_tabEdit (whitespace : Bool) (hd : d.Valid) (snippets : Entries Expansion)
    (multiline : Bool) :
    (tabEdit whitespace snippets multiline).Turns d
      ((d.unindent.match? snippets multiline).map (·.snippet))
      (match d.unindent.match? snippets multiline with
        | none => d.unindent.indent
        | some m =>
          let d' := d.unindent.afterMatch d.unindent.cursor (some m)
          if whitespace && m.snippet.shape == Shape.oneLine then d'.indent else d') := by
  have hu := Document.valid_unindent hd
  refine (Host.turns_unindent d).bind ((Host.turns_getCursor _).bind ?_)
  refine (Match.turns_tryTrigger hu snippets multiline).bind ?_
  unfold Document.match?
  cases Match.ending? (d.unindent.text.take d.unindent.cursor) snippets multiline with
  | none => exact (Host.turns_indent _).bind (Edit.turns_pure _ _)
  | some m =>
    simp only [Option.map_some]
    split_ifs
    · exact (Host.turns_indent _).bind (Edit.turns_pure _ _)
    · exact Edit.turns_pure _ _

/-- What the channel of Enter does after an expansion. -/
lemma turns_removeBreak (d : Document) (offset hostCursor : Int) (whitespace : Bool) (s : Snippet) :
    (removeBreak offset hostCursor whitespace s).Turns d ()
      (d.unbroken offset hostCursor whitespace s) := by
  refine (Host.turns_getCursor d).bind ((Host.turns_replaceRange d _ _ _).bind ?_)
  refine (Host.turns_setCursor _ _).bind ?_
  simp only [Document.unbroken]
  split_ifs
  · exact (Host.turns_replaceRange _ _ _ _).bind (Host.turns_setCursor _ _)
  · exact Edit.turns_pure _ _

/-- Enter looks for a trigger before the last line break before the cursor. -/
lemma turns_enterEdit (whitespace : Bool) (hd : d.Valid) {above line : Text}
    (hbefore : d.text.take d.cursor = above ++ '\n' :: line) (hline : '\n' ∉ line)
    (snippets : Entries Expansion) (multiline : Bool) :
    (enterEdit whitespace snippets multiline).Turns d
      ((Match.ending? above snippets multiline).map (·.snippet))
      (match Match.ending? above snippets multiline with
        | none => d
        | some m =>
          (d.afterMatch above.length (some m)).unbroken above.length d.cursor whitespace
            m.snippet) := by
  obtain ⟨habove, htake, hpos, hoffset⟩ := hd.line_above hbefore hline
  have hend := Host.turns_lineEndOffset d (Text.breaks above)
  rw [hoffset] at hend
  have htry := Match.turns_tryTrigger habove snippets multiline
  rw [htake] at htry
  refine (Host.turns_getCursor d).bind ((Host.turns_offsetToPos d _).bind ?_)
  simp only [hpos, Nat.add_one_ne_zero, if_false, Nat.add_sub_cancel]
  refine hend.bind (htry.bind ?_)
  cases Match.ending? above snippets multiline with
  | none =>
    have hset := Host.turns_setCursor d d.cursor
    rw [Document.setCursor_cursor hd] at hset
    exact hset.bind (Edit.turns_pure d none)
  | some m => exact (turns_removeBreak _ _ _ _ _).bind (Edit.turns_pure _ _)

end Channel

end Shorthand
