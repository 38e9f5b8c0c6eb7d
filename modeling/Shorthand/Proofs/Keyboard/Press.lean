import Shorthand.Keyboard
import Shorthand.Proofs.Trigger.Channel

set_option autoImplicit false
set_option relaxedAutoImplicit false

/-!
# Presses on documents

A press passes through three hands: the host does what it does by itself, the channel of the key
works on the document that it finds then, and for the space the host types afterwards. Each of the
three keys looks for a trigger in another document, and all of them find what stands at the cursor
before the press.

## Main definitions

* `Shorthand.Document.delivered` — the document that the channel of a key finds.
* `Shorthand.Document.byDefault` — what the host makes of a document when no channel does anything.

## Main results

* `Shorthand.Keyboard.turns_before`, `Shorthand.Keyboard.turns_after` — what the host does before
  and after it delivers a press.
* `Shorthand.Keyboard.press_of_turns`, `Shorthand.Keyboard.press_of_not_routed` — a press from what
  each hand does.
* `Shorthand.Keyboard.turns_keyEdit` — every key finds what stands at the cursor.
-/

namespace Shorthand

/-! ## What the host does -/

namespace Document

/-- What the host puts in for Enter: a line break, and the spaces and tabs that the line of the
cursor starts with. -/
def lineBreak (d : Document) : Text :=
  '\n' :: d.currentLine.takeWhile fun c => c == ' ' || c == '\t'

/-- The document that the channel of a key finds when the host delivers a press. -/
def delivered (d : Document) : Key → Document
  | .space => d
  | .tab => d.typed d.indentUnit
  | .enter => d.typed d.lineBreak

/-- What the host makes of a document when a key is pressed and no channel does anything: it types a
space, an indentation, or a line break with the indentation of the line. -/
def byDefault (d : Document) (key : Text) : Document :=
  match Key.ofName? key with
  | some .space => d.typed [' ']
  | some k => d.delivered k
  | none => d

/-- A press is delivered with the cursor in the text. -/
lemma valid_delivered {d : Document} (hd : d.Valid) (k : Key) : (d.delivered k).Valid := by
  cases k with
  | space => exact hd
  | tab => exact valid_typed hd _
  | enter => exact valid_typed hd _

end Document

namespace Keyboard

variable {d : Document}

/-- A text is typed at the cursor. -/
lemma turns_insertAtCursor (hd : d.Valid) (s : Text) :
    (insertAtCursor s).Turns d () (d.typed s) := by
  have hins := Host.turns_replaceRange d d.cursor d.cursor s
  rw [Document.replaceRange_cursor hd] at hins
  exact (Host.turns_getCursor d).bind hins

/-- Enter breaks the line and indents the new one like it. -/
lemma turns_breakLine (hd : d.Valid) : breakLine.Turns d () (d.typed d.lineBreak) := by
  have hinserted : d.replaceRange d.cursor d.cursor
      ('\n' :: d.leadingWhitespace (d.offsetToPos d.cursor).1) = d.typed d.lineBreak := by
    rw [Document.leadingWhitespace_currentLine hd, Document.replaceRange_cursor hd]
    rfl
  have hins := Host.turns_replaceRange d d.cursor d.cursor
    ('\n' :: d.leadingWhitespace (d.offsetToPos d.cursor).1)
  rw [hinserted] at hins
  refine (Host.turns_getCursor d).bind ((Host.turns_offsetToPos d _).bind ?_)
  exact (Host.turns_getCursor d).bind ((Host.turns_look d).bind hins)

/-- **What the host does before it delivers a press** of a key with a channel. -/
theorem turns_before (hd : d.Valid) {key : Text} {k : Key} (hk : Key.ofName? key = some k) :
    (before key).Turns d () (d.delivered k) := by
  unfold before
  rw [hk]
  cases k with
  | space => exact Edit.turns_pure d ()
  | tab =>
    have hindent := Host.turns_indent d
    rw [Document.indent_eq_typed hd] at hindent
    exact hindent
  | enter => exact turns_breakLine hd

/-- **What the host does after it has delivered a press** that nothing came of: it has done by
then what it does by itself. -/
theorem turns_after (hd : d.Valid) {key : Text} {k : Key} (hk : Key.ofName? key = some k) :
    (after key).Turns (d.delivered k) () (d.byDefault key) := by
  unfold after Document.byDefault
  rw [hk]
  cases k with
  | space => exact turns_insertAtCursor hd [' ']
  | tab => exact Edit.turns_pure _ ()
  | enter => exact Edit.turns_pure _ ()

/-- Wherever the cursor is and whatever key is pressed, the host comes to deliver it. -/
lemma exists_turns_before (key : Text) (d : Document) : ∃ d', (before key).Turns d () d' := by
  unfold before
  split
  · exact ⟨d, Edit.turns_pure d ()⟩
  · exact ⟨_, Host.turns_indent d⟩
  · have hbreak := (Host.turns_look d).bind (f := fun d' =>
        Host.replaceRange d.cursor d.cursor
          ('\n' :: d'.leadingWhitespace (d.offsetToPos d.cursor).1))
      (Host.turns_replaceRange d _ _ _)
    exact ⟨_, (Host.turns_getCursor d).bind
      ((Host.turns_offsetToPos d _).bind ((Host.turns_getCursor d).bind hbreak))⟩
  · exact ⟨d, Host.turns_note d _⟩

/-- Whatever came of a press, the host comes to its end. -/
lemma exists_turns_after (key : Text) (d : Document) : ∃ d', (after key).Turns d () d' := by
  unfold after
  split
  · exact ⟨_, (Host.turns_getCursor d).bind (Host.turns_replaceRange d _ _ _)⟩
  · exact ⟨d, Edit.turns_pure d ()⟩

/-! ## Presses -/

variable {dispatcher : Dispatcher} {t : Table} {h : Host} {d₁ d₂ d₃ : Document}

/-- A press that a channel takes: the host delivers it, the channel does its edit, and the host
types what is left to type. -/
theorem press_of_turns {p : KeyPress} {k : Key} {found : Option Snippet}
    (hroute : dispatcher.route p = some k) (hbefore : (before p.key).Turns d () d₁)
    (hedit : ((dispatcher.channel k).keyEdit k t.snippets dispatcher.multiline).Turns d₁ found d₂)
    (hafter : (after p.key).Turns d₂ () d₃) (hh : h.Holds d) :
    ∃ h', press dispatcher t p h =
        (.ok { handled := true, snippet := found },
          dispatcher.setChannel { dispatcher.channel k with phase := .done } k, h') ∧
      h'.Holds d₃ := by
  obtain ⟨h₁, hb, hh₁⟩ := hbefore h hh
  obtain ⟨h₂, he, hh₂⟩ := Channel.handle_of_turns hedit hh₁
  obtain ⟨h₃, ha, hh₃⟩ := hafter h₂ hh₂
  refine ⟨h₃, ?_, hh₃⟩
  simp only [press, hb, Dispatcher.dispatch, hroute, he, ha]

/-- A press that no channel takes: the host does what it does by itself. -/
theorem press_of_not_routed {p : KeyPress} (hroute : dispatcher.route p = none)
    (hbefore : (before p.key).Turns d () d₁) (hafter : (after p.key).Turns d₁ () d₂)
    (hh : h.Holds d) :
    ∃ h', press dispatcher t p h = (.ok {}, dispatcher, h') ∧ h'.Holds d₂ := by
  obtain ⟨h₁, hb, hh₁⟩ := hbefore h hh
  obtain ⟨h₂, ha, hh₂⟩ := hafter h₁ hh₁
  refine ⟨h₂, ?_, hh₂⟩
  simp only [press, hb, Dispatcher.dispatch_of_not_routed hroute, ha]

/-- A key that is pressed alone goes to its channel, if that is enabled. -/
lemma route_of_enabled {k : Key} (hk : (dispatcher.channel k).mode ≠ .disabled) :
    dispatcher.route { key := k.name } = some k := by
  have he : (dispatcher.channel k).isEnabled = true := by simpa [Channel.isEnabled] using hk
  simp only [Dispatcher.route, Key.ofName?_name, Option.filter, he, if_true, Bool.false_eq_true,
    if_false]

/-! ## What the channels find -/

section Find

variable {snippets : Entries Expansion} {multiline : Bool}

/-- Tab finds what stands at the cursor: it takes its indentation back first. -/
lemma turns_tabEdit_delivered (whitespace : Bool) (hd : d.Valid) (snippets : Entries Expansion)
    (multiline : Bool) :
    (Channel.tabEdit whitespace snippets multiline).Turns (d.delivered .tab)
      ((d.match? snippets multiline).map (·.snippet))
      (match d.match? snippets multiline with
        | none => d.delivered .tab
        | some m =>
          let d' := d.afterMatch d.cursor (some m)
          if whitespace && m.snippet.shape == Shape.oneLine then d'.indent else d') := by
  have htab :=
    Channel.turns_tabEdit whitespace (Document.valid_delivered hd .tab) snippets multiline
  rw [Document.delivered, ← Document.indent_eq_typed hd, Document.unindent_indent hd] at htab
  rw [Document.delivered, ← Document.indent_eq_typed hd]
  exact htab

/-- Enter finds what stands at the cursor: that is the end of the line above the new one. -/
lemma turns_enterEdit_delivered (whitespace : Bool) (hd : d.Valid) (snippets : Entries Expansion)
    (multiline : Bool) :
    (Channel.enterEdit whitespace snippets multiline).Turns (d.delivered .enter)
      ((d.match? snippets multiline).map (·.snippet))
      (match d.match? snippets multiline with
        | none => d.delivered .enter
        | some m =>
          ((d.delivered .enter).afterMatch d.cursor (some m)).unbroken d.cursor
            (d.delivered .enter).cursor whitespace m.snippet) := by
  have hlen : (d.text.take d.cursor).length = d.cursor := List.length_take_of_le hd
  have hnew : '\n' ∉ d.currentLine.takeWhile fun c => c == ' ' || c == '\t' := by
    intro hm
    have := List.mem_takeWhile_imp hm
    simp at this
  have hbefore : (d.delivered .enter).text.take (d.delivered .enter).cursor =
      d.text.take d.cursor ++ d.lineBreak := by
    simp only [Document.delivered, Document.typed]
    rw [List.take_left' (Document.length_take_append hd _)]
  have henter :=
    Channel.turns_enterEdit whitespace (Document.valid_delivered hd .enter) hbefore hnew
    snippets multiline
  rw [hlen] at henter
  exact henter

/-- **Every key finds what stands at the cursor before the press,** whatever the host did
meanwhile. -/
theorem turns_keyEdit (c : Channel) (k : Key) (hd : d.Valid) (snippets : Entries Expansion)
    (multiline : Bool) :
    ∃ d', (c.keyEdit k snippets multiline).Turns (d.delivered k)
        ((d.match? snippets multiline).map (·.snippet)) d' ∧
      (d.match? snippets multiline = none → d' = d.delivered k) := by
  cases k with
  | space =>
    refine ⟨_, Channel.turns_spaceEdit c hd snippets multiline, fun hm => ?_⟩
    rw [hm]
    rfl
  | tab =>
    refine ⟨_, turns_tabEdit_delivered _ hd snippets multiline, fun hm => ?_⟩
    rw [hm]
  | enter =>
    refine ⟨_, turns_enterEdit_delivered _ hd snippets multiline, fun hm => ?_⟩
    rw [hm]

end Find

end Keyboard

end Shorthand
