import Shorthand.Proofs.Keyboard.Press
import Shorthand.Proofs.Source.Compiled

set_option autoImplicit false
set_option relaxedAutoImplicit false

/-!
# Presses that expand

When a trigger stands at the cursor, Tab and Enter leave what the explicit trigger would have left
before the press: the indentation and the line break that the host put in are gone. What stays of
the key is what the mode says, and it comes after the expansion.

## Main results

* `Shorthand.Document.text_afterMatch` — what an expansion keeps of a text.
* `Shorthand.Document.unbroken_delivered` — the line break of the host goes without a trace.
* `Shorthand.Keyboard.press_enter_of_find` — Enter on a match.
* `Shorthand.Keyboard.press_tab_of_find` — Tab on a match.
-/

namespace Shorthand

variable {d : Document} {snippets : Entries Expansion} {multiline : Bool} {m : Match}

namespace Document

/-- **A match cuts a document in three:** what stands before the trigger, the trigger, and what
stands behind the cursor. The expansion takes the place of the trigger and the rest stays. -/
theorem text_afterMatch (hd : d.Valid) (hm : d.match? snippets multiline = some m)
    (hp : m.snippet.expansion.Placed) :
    ∃ before, d.text = before ++ m.snippet.trigger ++ d.text.drop d.cursor ∧
      (d.afterMatch d.cursor (some m)).text =
        before ++ m.snippet.expansion.text ++ d.text.drop d.cursor := by
  obtain ⟨before, -, htext, hafter⟩ := Match.exists_afterMatch_eq hd hm hp
  exact ⟨before, htext, by rw [hafter]⟩

/-- **The line break of the host goes without a trace** when the trigger before it is expanded: the
document is as if the trigger had been expanded before the key was pressed. -/
theorem unbroken_delivered (hd : d.Valid) (hm : d.match? snippets multiline = some m)
    (hp : m.snippet.expansion.Placed) (whitespace : Bool) :
    ((d.delivered .enter).afterMatch d.cursor (some m)).unbroken d.cursor
        (d.delivered .enter).cursor whitespace m.snippet =
      let d' := d.afterMatch d.cursor (some m)
      if whitespace then d'.typed ['\n'] else d' := by
  have hcursor : d.cursor ≤ (d.delivered .enter).cursor := Nat.le_add_right _ _
  have hvalid := valid_delivered hd .enter
  obtain ⟨-, hsuffix, -⟩ := Match.ending?_eq_some hm
  have htrigger : m.snippet.trigger.length ≤ d.cursor := by
    have hle := (hsuffix.trans (Match.reach_suffix _ _)).length_le
    rwa [List.length_take_of_le hd] at hle
  -- the text before the old cursor is not touched by the host, so the match is there as well
  have hbroken : Match.ending? ((d.delivered .enter).text.take d.cursor) snippets multiline =
      some m := by
    have htake : (d.delivered .enter).text.take d.cursor = d.text.take d.cursor :=
      take_typed hd d.lineBreak (Nat.le_refl _)
    rw [htake]
    exact hm
  have hexpanded : (d.delivered .enter).expanded (d.cursor - m.snippet.trigger.length)
      (d.delivered .enter).cursor m.snippet.expansion = d.afterMatch d.cursor (some m) := by
    rw [Match.afterMatch_eq_expanded hd hm hp]
    exact expanded_typed hd d.lineBreak (Nat.sub_le _ _) _
  rw [Match.afterMatch_eq_expanded (Nat.le_trans hcursor hvalid) hbroken hp,
    unbroken_eq_expanded htrigger hcursor hvalid, hexpanded]

end Document

/-- The snippet of a match in a table that was read from a source rests its cursor in its text. -/
lemma Match.placed_of_parse {between parts : Divider} {source : Text} {r : Source.Reading}
    (hparse : Source.parse between parts source = .ok r)
    (hm : d.match? r.snippets multiline = some m) : m.snippet.expansion.Placed := by
  obtain ⟨hmem, -, -⟩ := Match.ending?_eq_some hm
  exact (Source.compiled_parse hparse).placed hmem

namespace Keyboard

variable {dispatcher : Dispatcher} {h h₀ : Host}

/-- When a search at the cursor finds a match, it is the one that stands there, and trying the
trigger expands it. -/
lemma tryTrigger_of_find (hd : d.Valid) (hh : h.Holds d)
    (hfind : Match.find d.cursor snippets multiline h = .ok (some m) h₀) :
    d.match? snippets multiline = some m ∧
      ∃ h₁, Match.tryTrigger d.cursor snippets multiline h = .ok (some m.snippet) h₁ ∧
        h₁.Holds (d.afterMatch d.cursor (some m)) := by
  have hm : d.match? snippets multiline = some m :=
    (Match.turns_find hd snippets multiline).eq_of_ok hh hfind
  have htry := Match.turns_tryTrigger hd snippets multiline
  rw [← Document.match?, hm] at htry
  exact ⟨hm, htry h hh⟩

/-- **Enter on a match undoes the host completely.** What the press leaves is what trying the
trigger leaves on the document before the press; with white space a bare line break is typed after
that. The line break of the host and its indentation are gone, and no other character is lost:
around the trigger everything stays.

**Proof sketch.** The channel finds the match at the end of the line above the cursor of the host,
since nothing before the old cursor was touched. The expansion takes the place of the trigger and
puts the cursor in its own text, for its table was read from a source. What the host typed lies
between the expansion and the text behind the old cursor, so removing it does not move the cursor,
and the document is as if the expansion had taken the place of trigger and line break at once. -/
theorem press_enter_of_find {between parts : Divider} {source : Text} {r : Source.Reading}
    (hparse : Source.parse between parts source = .ok r) (t : Table)
    (henter : dispatcher.enter.mode ≠ .disabled) (hd : d.Valid) (hh : h.Holds d)
    (hfind : Match.find d.cursor r.snippets dispatcher.multiline h = .ok (some m) h₀) :
    ∃ h₁ h₂,
      Match.tryTrigger d.cursor r.snippets dispatcher.multiline h = .ok (some m.snippet) h₁ ∧
      press dispatcher (t.next r) { key := Key.enter.name } h =
        (.ok { handled := true, snippet := some m.snippet },
          { dispatcher with enter := { dispatcher.enter with phase := .done } }, h₂) ∧
      h₂.document =
        (if dispatcher.enter.mode = .enabledWithWhitespace then h₁.document.typed ['\n']
          else h₁.document) ∧
      ∃ before, d.text = before ++ m.snippet.trigger ++ d.text.drop d.cursor ∧
        h₁.document.text = before ++ m.snippet.expansion.text ++ d.text.drop d.cursor := by
  obtain ⟨hm, h₁, htry, hh₁⟩ := tryTrigger_of_find hd hh hfind
  have hp := Match.placed_of_parse hparse hm
  have hedit := turns_enterEdit_delivered dispatcher.enter.keepsWhitespace hd r.snippets
    dispatcher.multiline
  simp only [hm, Option.map_some, Document.unbroken_delivered hd hm hp] at hedit
  obtain ⟨h₂, hpress, hh₂⟩ := press_of_turns (t := t.next r) (route_of_enabled (k := .enter) henter)
    (turns_before hd (Key.ofName?_name .enter)) hedit (Edit.turns_pure _ ()) hh
  refine ⟨h₁, h₂, htry, hpress, ?_, ?_⟩
  · rw [hh₂.document, hh₁.document]
    simp only [Channel.keepsWhitespace, beq_iff_eq]
  · rw [hh₁.document]
    exact Document.text_afterMatch hd hm hp

/-- Enter behind an indented trigger in the middle of a line, with an expansion that has a line
break. -/
theorem press_enter_of_find_indented :
    let h : Host := { document := { text := "  abc".toList, cursor := 4 } }
    let s : Snippet := { trigger := "ab".toList, expansion := Escape.compile "x%\\ny".toList }
    let t : Table := { snippets := [(s.trigger, s.expansion)], generation := 1 }
    let dispatcher : Dispatcher := { enter := { mode := .enabledWithWhitespace } }
    ∃ h₁ h₂,
      Match.tryTrigger 4 t.snippets true h = .ok (some s) h₁ ∧
      press dispatcher t { key := Key.enter.name } h =
        (.ok { handled := true, snippet := some s },
          { enter := { mode := .enabledWithWhitespace, phase := .done } }, h₂) ∧
      h₂.document = h₁.document.typed ['\n'] := by
  intro h s t dispatcher
  have hparse : Source.parse (.text ['\n']) (.text ['=']) "ab=x%\\ny".toList =
      .ok { snippets := [(s.trigger, s.expansion)] } := rfl
  have hfind : Match.find 4 [(s.trigger, s.expansion)] true h = .ok (some ⟨2, s⟩) h := rfl
  obtain ⟨h₁, h₂, htry, hpress, hdocument, -⟩ :=
    press_enter_of_find (d := h.document) hparse {}
      (by decide : dispatcher.enter.mode ≠ .disabled) (by decide : 4 ≤ 5) ⟨rfl, rfl⟩ hfind
  exact ⟨h₁, h₂, htry, hpress, hdocument⟩

/-- **Tab on a match is the explicit trigger** on the document before the press, followed by one
indentation at the new cursor exactly when white space stays and neither the trigger nor the
expansion has a line break. The indentation of the host is taken back whatever text stands before
the cursor, also when that looks like an indentation itself. -/
theorem press_tab_of_find (t : Table) (htab : dispatcher.tab.mode ≠ .disabled) (hd : d.Valid)
    (hh : h.Holds d)
    (hfind : Match.find d.cursor t.snippets dispatcher.multiline h = .ok (some m) h₀) :
    ∃ h₁ h₂,
      Match.tryTrigger d.cursor t.snippets dispatcher.multiline h = .ok (some m.snippet) h₁ ∧
      press dispatcher t { key := Key.tab.name } h =
        (.ok { handled := true, snippet := some m.snippet },
          { dispatcher with tab := { dispatcher.tab with phase := .done } }, h₂) ∧
      h₂.document =
        (if dispatcher.tab.mode = .enabledWithWhitespace ∧ m.snippet.shape = .oneLine then
          h₁.document.indent
        else h₁.document) := by
  obtain ⟨hm, h₁, htry, hh₁⟩ := tryTrigger_of_find hd hh hfind
  have hedit := turns_tabEdit_delivered dispatcher.tab.keepsWhitespace hd t.snippets
    dispatcher.multiline
  simp only [hm, Option.map_some] at hedit
  obtain ⟨h₂, hpress, hh₂⟩ := press_of_turns (t := t) (route_of_enabled (k := .tab) htab)
    (turns_before hd (Key.ofName?_name .tab)) hedit (Edit.turns_pure _ ()) hh
  refine ⟨h₁, h₂, htry, hpress, ?_⟩
  rw [hh₂.document, hh₁.document]
  simp only [Channel.keepsWhitespace, Bool.and_eq_true, beq_iff_eq]

/-- Tab behind a trigger that follows an indentation, with a snippet of one line. -/
theorem press_tab_of_find_indented :
    let h : Host := { document := { text := "\tabc".toList, cursor := 3 } }
    let s : Snippet := { trigger := "ab".toList, expansion := { text := "xy".toList } }
    let t : Table := { snippets := [(s.trigger, s.expansion)] }
    let dispatcher : Dispatcher := { tab := { mode := .enabledWithWhitespace } }
    ∃ h₁ h₂,
      Match.tryTrigger 3 t.snippets true h = .ok (some s) h₁ ∧
      press dispatcher t { key := Key.tab.name } h =
        (.ok { handled := true, snippet := some s },
          { tab := { mode := .enabledWithWhitespace, phase := .done } }, h₂) ∧
      h₂.document = h₁.document.indent := by
  intro h s t dispatcher
  have hfind : Match.find 3 t.snippets true h = .ok (some ⟨1, s⟩) h := rfl
  obtain ⟨h₁, h₂, htry, hpress, hdocument⟩ :=
    press_tab_of_find (d := h.document) t
      (by decide : dispatcher.tab.mode ≠ .disabled) (by decide : 3 ≤ 4) ⟨rfl, rfl⟩ hfind
  exact ⟨h₁, h₂, htry, hpress, hdocument⟩

end Keyboard

end Shorthand
