import Shorthand.Proofs.Match.Ending
import Shorthand.Proofs.Source.Compiled

set_option autoImplicit false
set_option relaxedAutoImplicit false

/-!
# What a shape says of the lines

The shape of a snippet is read off its trigger and off a flag of its expansion, before there is a
document. For the snippets that a source gives, the flag is true, so the shape tells what an
expansion does to the lines of a document: the line breaks of the trigger go and those of the
expansion come. Without either, everything happens on one line.

## Main results

* `Shorthand.Shape.testBit_zero_code`, `Shorthand.Shape.testBit_one_code` — the bits of the code
  of a shape.
* `Shorthand.Match.lineCount_afterMatch` — how many lines there are after an expansion.
* `Shorthand.Match.getElem?_lines_afterMatch` — within a line an expansion changes only that line.
* `Shorthand.Match.tryTrigger_lines` — what a shape says of the lines.
-/

namespace Shorthand

/-! ## Shapes -/

/-- Bit 0 tells of the expansion. -/
lemma Shape.testBit_zero_code (s : Shape) : s.code.testBit 0 = s.breakInExpansion := by
  obtain ⟨inTrigger, inExpansion⟩ := s
  cases inTrigger <;> cases inExpansion <;> rfl

/-- Bit 1 tells of the trigger. -/
lemma Shape.testBit_one_code (s : Shape) : s.code.testBit 1 = s.breakInTrigger := by
  obtain ⟨inTrigger, inExpansion⟩ := s
  cases inTrigger <;> cases inExpansion <;> rfl

/-- A snippet has a line break in its trigger when its shape says so. -/
lemma Snippet.breakInTrigger_iff (s : Snippet) : s.shape.breakInTrigger = true ↔ '\n' ∈ s.trigger :=
  List.contains_iff_mem

/-- What a compiled table says of its expansions is true. -/
lemma Entries.Compiled.hasBreak_iff {es : Entries Expansion} (h : Entries.Compiled es)
    {e : Text × Expansion} (he : e ∈ es) : e.2.hasBreak = true ↔ '\n' ∈ e.2.text := by
  obtain ⟨raw, hraw⟩ := h e he
  rw [hraw]
  exact Escape.hasBreak_compile raw

/-! ## Lines after an expansion -/

/-- There is one more line than there are line breaks in the text. -/
lemma Document.lineCount_eq (d : Document) : d.lineCount = Text.breaks d.text + 1 :=
  Text.length_lines d.text

namespace Match

variable {d : Document} {n : ℕ} {snippets : Entries Expansion} {multiline : Bool} {m : Match}

/-- **How many lines there are after an expansion:** the line breaks of the trigger are gone, and
those of the expansion are there. -/
theorem lineCount_afterMatch (hn : n ≤ d.text.length)
    (hm : ending? (d.text.take n) snippets multiline = some m) (hp : m.snippet.expansion.Placed) :
    (d.afterMatch n (some m)).lineCount + Text.breaks m.snippet.trigger =
      d.lineCount + Text.breaks m.snippet.expansion.text := by
  obtain ⟨before, -, htext, hafter⟩ := exists_afterMatch_eq hn hm hp
  have hbreaks := congrArg Text.breaks htext
  rw [Text.breaks_append, Text.breaks_append] at hbreaks
  rw [hafter, Document.lineCount_eq, Document.lineCount_eq, Text.breaks_append, Text.breaks_append]
  omega

/-- The line of the offset is that of the start of the trigger, if the trigger has no line break. -/
lemma offsetToPos_fst_of_append (hn : n ≤ d.text.length) {before trigger : Text}
    (hbefore : d.text.take n = before ++ trigger) (htrigger : '\n' ∉ trigger) :
    (d.offsetToPos n).1 = Text.breaks before := by
  rw [Document.offsetToPos_fst hn, hbefore, Text.breaks_append, Text.breaks_eq_zero.mpr htrigger,
    Nat.add_zero]

/-- **Without line breaks the cursor stays on the line.** -/
theorem offsetToPos_cursor_afterMatch (hn : n ≤ d.text.length)
    (hm : ending? (d.text.take n) snippets multiline = some m) (hp : m.snippet.expansion.Placed)
    (htrigger : '\n' ∉ m.snippet.trigger) (hexpansion : '\n' ∉ m.snippet.expansion.text) :
    ((d.afterMatch n (some m)).offsetToPos (d.afterMatch n (some m)).cursor).1 =
      (d.offsetToPos n).1 := by
  obtain ⟨before, hbefore, -, hafter⟩ := exists_afterMatch_eq hn hm hp
  set e := m.snippet.expansion
  -- the cursor stands behind a part of the expansion, which follows what stood before the trigger
  have htake : (before ++ e.text ++ d.text.drop n).take
      (before.length + (e.text.length - e.cursorBack.toNat)) =
        before ++ e.text.take (e.text.length - e.cursorBack.toNat) := by
    rw [List.append_assoc, List.take_length_add_append,
      List.take_append_of_le_length (Nat.sub_le _ _)]
  have hcursor : before.length + (e.text.length - e.cursorBack.toNat) ≤
      (before ++ e.text ++ d.text.drop n).length := by
    rw [List.length_append, List.length_append]
    omega
  have hpart : '\n' ∉ e.text.take (e.text.length - e.cursorBack.toNat) :=
    fun h => hexpansion (List.mem_of_mem_take h)
  rw [hafter, offsetToPos_fst_of_append hn hbefore htrigger]
  exact offsetToPos_fst_of_append hcursor htake hpart

/-- **Without line breaks only that line changes.** -/
theorem getElem?_lines_afterMatch (hn : n ≤ d.text.length)
    (hm : ending? (d.text.take n) snippets multiline = some m) (hp : m.snippet.expansion.Placed)
    (htrigger : '\n' ∉ m.snippet.trigger) (hexpansion : '\n' ∉ m.snippet.expansion.text) {l : ℕ}
    (hl : l ≠ (d.offsetToPos n).1) : (d.afterMatch n (some m)).lines[l]? = d.lines[l]? := by
  obtain ⟨before, hbefore, htext, hafter⟩ := exists_afterMatch_eq hn hm hp
  rw [offsetToPos_fst_of_append hn hbefore htrigger] at hl
  have hlines : d.lines[l]? = (Text.lines (before ++ m.snippet.trigger ++ d.text.drop n))[l]? := by
    rw [Document.lines, ← htext]
  rw [hlines, hafter]
  exact Text.getElem?_lines_replaced hexpansion htrigger _ hl

/-! ## What a shape says -/

/-- **What a shape says of the lines,** for a snippet that a source gave, wherever in a text it is
expanded: how many lines there are afterwards, and whether a trigger or an expansion has line
breaks at all. Without any the cursor is on the line where the trigger was, and no other line has
changed. -/
theorem tryTrigger_lines {between parts : Divider} {source : Text} {r : Source.Reading}
    (hparse : Source.parse between parts source = .ok r) {h h' : Host} (hr : h.refusal = none)
    (hn : n ≤ h.document.text.length) {s : Snippet}
    (hrun : tryTrigger n r.snippets multiline h = .ok (some s) h') :
    (h'.document.lineCount : ℤ) =
        h.document.lineCount + (Text.breaks s.expansion.text - Text.breaks s.trigger) ∧
      (s.shape.code.testBit 0 = true ↔ '\n' ∈ s.expansion.text) ∧
      (s.shape.code.testBit 1 = true ↔ '\n' ∈ s.trigger) ∧
      (s.shape = .oneLine →
        h'.document.lineCount = h.document.lineCount ∧
          (h'.document.offsetToPos h'.document.cursor).1 = (h.document.offsetToPos n).1 ∧
          ∀ l, l ≠ (h.document.offsetToPos n).1 →
            h'.document.lines[l]? = h.document.lines[l]?) := by
  have hcompiled := Source.compiled_parse hparse
  obtain ⟨h₁, hrun₁, hh₁⟩ := turns_tryTrigger hn r.snippets multiline h ⟨rfl, hr⟩
  rw [hrun, EStateM.Result.ok.injEq] at hrun₁
  obtain ⟨hfound, rfl⟩ := hrun₁
  obtain ⟨m, hm, rfl⟩ := Option.map_eq_some_iff.mp hfound.symm
  rw [hm] at hh₁
  obtain ⟨hmem, -, -⟩ := ending?_eq_some hm
  have hp : m.snippet.expansion.Placed := hcompiled.placed hmem
  have hflag : m.snippet.shape.breakInExpansion = true ↔ '\n' ∈ m.snippet.expansion.text :=
    hcompiled.hasBreak_iff hmem
  have hcount := lineCount_afterMatch hn hm hp
  rw [hh₁.document]
  refine ⟨by omega, ?_, ?_, fun hshape => ?_⟩
  · rw [Shape.testBit_zero_code, hflag]
  · rw [Shape.testBit_one_code, m.snippet.breakInTrigger_iff]
  · have htrigger : '\n' ∉ m.snippet.trigger := by
      rw [← m.snippet.breakInTrigger_iff, hshape]
      exact Bool.false_ne_true
    have hexpansion : '\n' ∉ m.snippet.expansion.text := by
      rw [← hflag, hshape]
      exact Bool.false_ne_true
    rw [Text.breaks_eq_zero.mpr htrigger, Text.breaks_eq_zero.mpr hexpansion] at hcount
    exact ⟨hcount, offsetToPos_cursor_afterMatch hn hm hp htrigger hexpansion,
      fun l hl => getElem?_lines_afterMatch hn hm hp htrigger hexpansion hl⟩

/-- A trigger in the middle of the second of three lines, and one on two lines. -/
theorem tryTrigger_lines_middle :
    ∃ (r : Source.Reading) (h h₁ h₂ : Host) (s₁ s₂ : Snippet),
      Source.parse (.text "--".toList) (.text ['=']) "::=<%\\e>--a\nx=b".toList = .ok r ∧
      h.refusal = none ∧
        h.document = { text := "a\nx::y\nc".toList, cursor := 0 } ∧
        tryTrigger 5 r.snippets true h = .ok (some s₁) h₁ ∧ s₁.shape = .oneLine ∧
        h₁.document.lineCount = 3 ∧ (h₁.document.offsetToPos h₁.document.cursor).1 = 1 ∧
        h₁.document.lines[0]? = some ['a'] ∧ h₁.document.lines[2]? = some ['c'] ∧
        tryTrigger 3 r.snippets true h = .ok (some s₂) h₂ ∧ s₂.shape.code.testBit 1 = true ∧
        h₂.document.lineCount = 2 := by
  let r : Source.Reading :=
    { snippets := [("::".toList, Escape.compile "<%\\e>".toList),
      ("a\nx".toList, Escape.compile ['b'])] }
  let h : Host := { document := { text := "a\nx::y\nc".toList, cursor := 0 } }
  have hparse : Source.parse (.text "--".toList) (.text ['=']) "::=<%\\e>--a\nx=b".toList = .ok r :=
    rfl
  have hr : h.refusal = none := rfl
  have hrun₁ : ∃ h₁, tryTrigger (5 : ℕ) r.snippets true h =
      .ok (some ⟨"::".toList, Escape.compile "<%\\e>".toList⟩) h₁ := ⟨_, rfl⟩
  have hrun₂ : ∃ h₂, tryTrigger (3 : ℕ) r.snippets true h =
      .ok (some ⟨"a\nx".toList, Escape.compile ['b']⟩) h₂ := ⟨_, rfl⟩
  obtain ⟨h₁, hrun₁⟩ := hrun₁
  obtain ⟨h₂, hrun₂⟩ := hrun₂
  obtain ⟨-, -, -, hone⟩ := tryTrigger_lines hparse hr (by decide) hrun₁
  obtain ⟨hcount, -, hbit, -⟩ := tryTrigger_lines hparse hr (by decide) hrun₂
  obtain ⟨hlines, hcursor, hothers⟩ := hone (by decide)
  have hcount' : (h₂.document.lineCount : ℤ) = (2 : ℕ) := hcount.trans (by decide)
  exact ⟨r, h, h₁, h₂, _, _, hparse, hr, rfl, hrun₁, by decide, hlines.trans (by decide),
    hcursor.trans (by decide), (hothers 0 (by decide)).trans (by decide),
    (hothers 2 (by decide)).trans (by decide), hrun₂, hbit.mpr (by decide),
    Int.ofNat_inj.mp hcount'⟩

end Match

end Shorthand
