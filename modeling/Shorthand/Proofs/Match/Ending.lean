import Shorthand.Match
import Shorthand.Proofs.Document.Position
import Shorthand.Proofs.Host.Turns

set_option autoImplicit false
set_option relaxedAutoImplicit false

/-!
# Triggers that end a text

A trigger is looked for by comparing ranges of a document. What is found depends on nothing but the
text before the cursor: it is the first entry of the table whose trigger ends that text, or, when
triggers do not span lines, its last line.

## Main definitions

* `Shorthand.Match.reach` — the text that a trigger has to end.
* `Shorthand.Match.ending?` — the first entry whose trigger ends it.
* `Shorthand.Document.match?` — the same for the cursor of a document.
* `Shorthand.Document.afterMatch` — a document where a match, if there is one, was expanded.

## Main results

* `Shorthand.Match.turns_find` — what is found at an offset is what ends the text before it.
* `Shorthand.Match.turns_tryTrigger` — what trying a trigger makes of a document.
* `Shorthand.Match.afterMatch_eq_expanded` — the expansion is put in the place of its trigger.
* `Shorthand.Match.exists_afterMatch_eq` — what stays of the text around it.
-/

namespace Shorthand

/-- The text that a trigger has to end: all that stands before the cursor, or only its line. -/
def Match.reach (before : Text) (multiline : Bool) : Text :=
  if multiline then before else Text.lastLine before

/-- The first entry whose trigger ends a text, with the place where it starts. -/
def Match.ending? (before : Text) (snippets : Entries Expansion) (multiline : Bool) :
    Option Match :=
  (List.find? (fun e => e.1.isSuffixOf (reach before multiline)) snippets).map fun e =>
    ⟨(before.length - e.1.length : Nat), e.1, e.2⟩

/-- The match at the cursor of a document. -/
def Document.match? (d : Document) (snippets : Entries Expansion) (multiline : Bool) :
    Option Match :=
  Match.ending? (d.text.take d.cursor) snippets multiline

/-- The document where a match at an offset, if there is one, was expanded. -/
def Document.afterMatch (d : Document) (offset : Int) : Option Match → Document
  | none => d
  | some m =>
    (d.replaceRange m.start offset m.snippet.expansion.text).setCursor
      (m.start + m.snippet.expansion.text.length - m.snippet.expansion.cursorBack)

namespace Match

/-- An entry whose trigger ends the text is the first. -/
lemma ending?_cons_of_suffix {before trigger : Text} {multiline : Bool}
    (h : trigger <:+ reach before multiline) (e : Expansion) (rest : Entries Expansion) :
    ending? before ((trigger, e) :: rest) multiline =
      some ⟨(before.length - trigger.length : Nat), trigger, e⟩ := by
  have hb : trigger.isSuffixOf (reach before multiline) = true := List.isSuffixOf_iff_suffix.mpr h
  simp only [ending?, List.find?, hb, Option.map_some]

/-- An entry whose trigger does not end the text is passed over. -/
lemma ending?_cons_of_not_suffix {before trigger : Text} {multiline : Bool}
    (h : ¬trigger <:+ reach before multiline) (e : Expansion) (rest : Entries Expansion) :
    ending? before ((trigger, e) :: rest) multiline = ending? before rest multiline := by
  have hb : trigger.isSuffixOf (reach before multiline) = false := by
    rw [← Bool.not_eq_true, List.isSuffixOf_iff_suffix]
    exact h
  simp only [ending?, List.find?, hb]

/-- **What is found** is an entry of the table, its trigger ends the text, and it starts where that
begins. -/
lemma ending?_eq_some {before : Text} {snippets : Entries Expansion} {multiline : Bool} {m : Match}
    (h : ending? before snippets multiline = some m) :
    (m.snippet.trigger, m.snippet.expansion) ∈ snippets ∧
      m.snippet.trigger <:+ reach before multiline ∧
      m.start = (before.length - m.snippet.trigger.length : Nat) := by
  obtain ⟨e, he, rfl⟩ := Option.map_eq_some_iff.mp h
  have hs := List.find?_some he
  rw [List.isSuffixOf_iff_suffix] at hs
  exact ⟨List.mem_of_find?_eq_some he, hs, rfl⟩

/-! ## Looking for a trigger -/

/-- What a trigger has to end is an end of the text itself. -/
lemma reach_suffix (before : Text) (multiline : Bool) : reach before multiline <:+ before := by
  cases multiline with
  | true => exact List.suffix_refl before
  | false => exact Text.lastLine_suffix before

/-- A trigger ends what it has to end when it ends the text and does not start before that. -/
lemma suffix_reach_iff (before trigger : Text) (multiline : Bool)
    (hl : trigger.length ≤ (reach before multiline).length) :
    trigger <:+ reach before multiline ↔
      before.drop (before.length - trigger.length) = trigger := by
  constructor
  · intro h
    exact (List.suffix_iff_eq_drop.mp (h.trans (reach_suffix before multiline))).symm
  · intro h
    have ht : trigger <:+ before := List.suffix_iff_eq_drop.mpr h.symm
    exact List.suffix_of_suffix_length_le ht (reach_suffix before multiline) hl

variable {d : Document} {n : Nat}

/-- The least offset that a trigger may start at is where the text that it has to end starts. -/
lemma turns_floor (hn : n ≤ d.text.length) (multiline : Bool) :
    (floor n multiline).Turns d
      ((n - (reach (d.text.take n) multiline).length : Nat) : Int) d := by
  cases multiline with
  | true =>
    have hl : (reach (d.text.take n) true).length = n := List.length_take_of_le hn
    rw [hl, Nat.sub_self]
    exact Edit.turns_pure d 0
  | false =>
    have hpos := Host.turns_posToOffset d (d.offsetToPos n).1 0
    rw [Document.posToOffset_line hn] at hpos
    exact (Host.turns_offsetToPos d n).bind hpos

/-- The range before an offset, as long as a trigger. -/
lemma getRange_trigger (hn : n ≤ d.text.length) {trigger : Text}
    (hl : trigger.length ≤ n) :
    d.getRange ((n : Int) - trigger.length) n = (d.text.take n).drop (n - trigger.length) := by
  have hs : ((n : Int) - trigger.length) = (n - trigger.length : Nat) := by omega
  rw [hs, Document.getRange, Document.clamp_natCast hn, Document.clamp_natCast (by omega)]

/-- **The search finds the first entry whose trigger ends the text.**

**Proof sketch.** Induction on the entries. A trigger that is longer than what it has to end starts
before the floor, and is no end of it either. For any other the range that is read is as long as the
trigger, and it is the trigger exactly when that ends the text. -/
lemma turns_findFrom (hn : n ≤ d.text.length) (snippets : Entries Expansion) (multiline : Bool) :
    (findFrom n ((n - (reach (d.text.take n) multiline).length : Nat) : Int) snippets).Turns d
      (ending? (d.text.take n) snippets multiline) d := by
  set before := d.text.take n with hbefore
  have hlen : before.length = n := List.length_take_of_le hn
  have hreach := (reach_suffix before multiline).length_le
  induction snippets with
  | nil =>
    rw [findFrom]
    exact Edit.turns_pure d none
  | cons entry rest ih =>
    obtain ⟨trigger, expansion⟩ := entry
    by_cases hlong : (reach before multiline).length < trigger.length
    · have hskip : ((n : Int) - trigger.length) <
          ((n - (reach before multiline).length : Nat) : Int) := by omega
      have hno : ¬trigger <:+ reach before multiline := by
        intro hsuf
        have := hsuf.length_le
        omega
      rw [findFrom, if_pos hskip, ending?_cons_of_not_suffix hno]
      exact ih
    · have hkeep : ¬((n : Int) - trigger.length) <
          ((n - (reach before multiline).length : Nat) : Int) := by omega
      have hrange : d.getRange ((n : Int) - trigger.length) n =
          before.drop (before.length - trigger.length) := by
        rw [getRange_trigger hn (by omega), ← hbefore, hlen]
      have hiff := suffix_reach_iff before trigger multiline (by omega)
      rw [findFrom, if_neg hkeep]
      refine (Host.turns_getRange d _ _).bind ?_
      rw [hrange]
      by_cases heq : before.drop (before.length - trigger.length) = trigger
      · have hstart : ((n : Int) - trigger.length) = (before.length - trigger.length : Nat) := by
          omega
        rw [if_pos heq, ending?_cons_of_suffix (hiff.mpr heq), hstart]
        exact Edit.turns_pure d _
      · rw [if_neg heq, ending?_cons_of_not_suffix fun hsuf => heq (hiff.mp hsuf)]
        exact ih

/-- **What is found at an offset is what ends the text before it.** -/
theorem turns_find (hn : n ≤ d.text.length) (snippets : Entries Expansion) (multiline : Bool) :
    (find n snippets multiline).Turns d (ending? (d.text.take n) snippets multiline) d :=
  (turns_floor hn multiline).bind (turns_findFrom hn snippets multiline)

/-! ## Expanding it -/

/-- What the expansion of a match makes of a document. -/
lemma turns_expand (d : Document) (offset : Int) (m : Match) :
    (expand offset m).Turns d () (d.afterMatch offset (some m)) := by
  refine (Host.turns_replaceRange d _ _ _).bind ?_
  refine (Host.turns_setCursor _ _).bind ?_
  exact Host.turns_note _ _

/-- **Trying a trigger** at an offset gives the snippet that ends the text before it, and puts its
expansion there. -/
theorem turns_tryTrigger (hn : n ≤ d.text.length) (snippets : Entries Expansion)
    (multiline : Bool) :
    (tryTrigger n snippets multiline).Turns d
      ((ending? (d.text.take n) snippets multiline).map (·.snippet))
      (d.afterMatch n (ending? (d.text.take n) snippets multiline)) := by
  refine (turns_find hn snippets multiline).bind ?_
  cases ending? (d.text.take n) snippets multiline with
  | none => exact Edit.turns_pure d none
  | some m => exact (turns_expand d n m).bind (Edit.turns_pure _ _)

/-- **A match whose cursor rests in its expansion** puts that in the place of its trigger. -/
theorem afterMatch_eq_expanded (hn : n ≤ d.text.length) {snippets : Entries Expansion}
    {multiline : Bool} {m : Match} (hm : ending? (d.text.take n) snippets multiline = some m)
    (hp : m.snippet.expansion.Placed) :
    d.afterMatch n (some m) =
      d.expanded (n - m.snippet.trigger.length) n m.snippet.expansion := by
  obtain ⟨-, -, hstart⟩ := ending?_eq_some hm
  rw [List.length_take_of_le hn] at hstart
  rw [Document.afterMatch, hstart]
  exact Document.setCursor_replaceRange (Nat.sub_le _ _) hn hp

/-- **A match cuts the text in three:** what stands before its trigger, the trigger, and what
stands behind it. The expansion takes the place of the trigger with the cursor in it, and the rest
stays. -/
theorem exists_afterMatch_eq (hn : n ≤ d.text.length) {snippets : Entries Expansion}
    {multiline : Bool} {m : Match} (hm : ending? (d.text.take n) snippets multiline = some m)
    (hp : m.snippet.expansion.Placed) :
    ∃ before, d.text.take n = before ++ m.snippet.trigger ∧
      d.text = before ++ m.snippet.trigger ++ d.text.drop n ∧
      d.afterMatch n (some m) =
        { d with
          text := before ++ m.snippet.expansion.text ++ d.text.drop n
          cursor := before.length +
            (m.snippet.expansion.text.length - m.snippet.expansion.cursorBack.toNat) } := by
  obtain ⟨-, hsuffix, -⟩ := ending?_eq_some hm
  obtain ⟨before, hbefore⟩ := hsuffix.trans (reach_suffix _ _)
  have hlen := congrArg List.length hbefore
  rw [List.length_append, List.length_take_of_le hn] at hlen
  have hstart : n - m.snippet.trigger.length = before.length := by omega
  have htake : d.text.take before.length = before := by
    have hcut : d.text.take before.length = (d.text.take n).take before.length := by
      rw [List.take_take, Nat.min_eq_left (by omega)]
    rw [hcut, ← hbefore, List.take_left]
  refine ⟨before, hbefore.symm, ?_, ?_⟩
  · rw [hbefore, List.take_append_drop]
  · rw [afterMatch_eq_expanded hn hm hp, Document.expanded, hstart, htake]

end Match

end Shorthand
