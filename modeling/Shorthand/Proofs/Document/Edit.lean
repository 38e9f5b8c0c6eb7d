import Mathlib.Tactic.SplitIfs
import Shorthand.Document
import Shorthand.Snippet

set_option autoImplicit false
set_option relaxedAutoImplicit false

/-!
# Edits in closed form

Every edit of a document is a replacement between two offsets, which moves the cursor by a rule of
its own. For the edits that a key press is made of the result has a simple form: a text is typed
at the cursor, or an expansion takes the place of a part of the text and the cursor rests in it.

## Main definitions

* `Shorthand.Document.Valid` — the cursor stands in the text.
* `Shorthand.Document.typed` — a text typed at the cursor.
* `Shorthand.Expansion.Placed` — the cursor of an expansion rests in its text.
* `Shorthand.Document.expanded` — an expansion in the place of a part of the text.

## Main results

* `Shorthand.Document.unindent_indent` — an indentation can be taken back.
* `Shorthand.Document.setCursor_replaceRange` — an expansion puts the cursor where it says.
* `Shorthand.Document.replaceRange_expanded` — what follows an expansion can go without a trace.
-/

namespace Shorthand

/-- The cursor of an expansion rests in its text. -/
def Expansion.Placed (e : Expansion) : Prop := 0 ≤ e.cursorBack ∧ e.cursorBack ≤ e.text.length

namespace Document

/-- The cursor stands in the text. Every document that is made has this, and every edit keeps it. -/
def Valid (d : Document) : Prop := d.cursor ≤ d.text.length

/-- The document with a text typed at its cursor, which moves on behind it. -/
def typed (d : Document) (s : Text) : Document :=
  { d with
    text := d.text.take d.cursor ++ s ++ d.text.drop d.cursor
    cursor := d.cursor + s.length }

/-- The document with an expansion in the place of the text between two offsets, and the cursor at
rest in it. -/
def expanded (d : Document) (start stop : Nat) (e : Expansion) : Document :=
  { d with
    text := d.text.take start ++ e.text ++ d.text.drop stop
    cursor := start + (e.text.length - e.cursorBack.toNat) }

/-! ## Offsets in the text -/

/-- An offset in the text stays where it is. -/
lemma clamp_natCast {d : Document} {n : Nat} (h : n ≤ d.text.length) : d.clamp n = n := by
  simp only [clamp, clampTo, Int.toNat_natCast]
  exact Nat.min_eq_left h

/-- Any other offset goes to the nearest end of the text. -/
lemma cast_clamp (d : Document) (offset : Int) :
    (d.clamp offset : Int) = max 0 (min offset d.text.length) := by
  simp only [clamp, clampTo]
  omega

/-- The length of a text with another one in the place of all that follows an offset. -/
lemma length_take_append {d : Document} {n : Nat} (hn : n ≤ d.text.length) (s : Text) :
    (d.text.take n ++ s).length = n + s.length := by
  rw [List.length_append, List.length_take_of_le hn]

/-- A document has its cursor in its text. -/
theorem valid_new (text : Text) (cursor : Option Int) (indentUnit : Text) :
    (new text cursor indentUnit).Valid := by
  cases cursor with
  | none => exact Nat.le_refl _
  | some offset => exact Nat.min_le_right _ _

/-- The cursor moves to a place in the text. -/
theorem valid_setCursor (d : Document) (offset : Int) : (d.setCursor offset).Valid :=
  d.clamp_le offset

/-- Moving the cursor to where it is changes nothing. -/
lemma setCursor_cursor {d : Document} (hd : d.Valid) : d.setCursor d.cursor = d := by
  rw [setCursor, clamp_natCast hd]

/-- A replacement between two offsets that are in order. -/
lemma replaceRange_of_le {d : Document} {a b : Nat} (hab : a ≤ b) (hb : b ≤ d.text.length)
    (s : Text) :
    d.replaceRange a b s =
      { d with
        text := d.text.take a ++ s ++ d.text.drop b
        cursor :=
          if b ≤ d.cursor then d.cursor - (b - a) + s.length
          else if a < d.cursor then a + s.length
          else d.cursor } := by
  have ha : d.clamp a = a := clamp_natCast (Nat.le_trans hab hb)
  simp only [replaceRange, ha, clamp_natCast hb, Nat.min_eq_left hab, Nat.max_eq_right hab]

/-- A replacement keeps the cursor in the text. -/
theorem valid_replaceRange {d : Document} (hd : d.Valid) (start stop : Int) (s : Text) :
    (d.replaceRange start stop s).Valid := by
  have hc : d.cursor ≤ d.text.length := hd
  have hstart := d.clamp_le start
  have hstop := d.clamp_le stop
  simp only [Valid, replaceRange, List.length_append, List.length_take, List.length_drop]
  split_ifs <;> omega

/-! ## Typing -/

/-- A replacement of nothing at the cursor is typing. -/
lemma replaceRange_cursor {d : Document} (hd : d.Valid) (s : Text) :
    d.replaceRange d.cursor d.cursor s = d.typed s := by
  rw [replaceRange_of_le (Nat.le_refl _) hd, if_pos (Nat.le_refl _), Nat.sub_self, Nat.sub_zero]
  rfl

/-- The text after typing is longer by what was typed. -/
lemma length_typed {d : Document} (hd : d.Valid) (s : Text) :
    (d.typed s).text.length = d.text.length + s.length := by
  have hc : d.cursor ≤ d.text.length := hd
  simp only [typed, List.length_append, List.length_take, List.length_drop]
  omega

/-- Typing keeps the cursor in the text. -/
theorem valid_typed {d : Document} (hd : d.Valid) (s : Text) : (d.typed s).Valid := by
  have hc : d.cursor ≤ d.text.length := hd
  rw [Valid, length_typed hd]
  simp only [typed]
  omega

/-- What stands before the cursor stays there when a text is typed. -/
lemma take_typed {d : Document} (hd : d.Valid) (s : Text) {n : Nat} (hn : n ≤ d.cursor) :
    (d.typed s).text.take n = d.text.take n := by
  have hl : (d.text.take d.cursor).length = d.cursor := List.length_take_of_le hd
  simp only [typed, List.append_assoc]
  rw [List.take_append_of_le_length (by omega), List.take_take, Nat.min_eq_left hn]

/-- Behind what was typed stands what stood behind the cursor. -/
lemma drop_typed {d : Document} (hd : d.Valid) (s : Text) :
    (d.typed s).text.drop (d.typed s).cursor = d.text.drop d.cursor := by
  simp only [typed]
  rw [List.drop_left' (length_take_append hd s)]

/-- **What was typed can be taken back.** -/
theorem replaceRange_typed {d : Document} (hd : d.Valid) (s : Text) :
    (d.typed s).replaceRange d.cursor (d.typed s).cursor [] = d := by
  have hc : d.cursor ≤ (d.typed s).cursor := Nat.le_add_right _ _
  rw [replaceRange_of_le hc (valid_typed hd s), if_pos (Nat.le_refl _),
    take_typed hd s (Nat.le_refl _), drop_typed hd s, List.append_nil, List.take_append_drop]
  simp [typed]

/-! ## Indentations -/

/-- An indentation is typed. -/
lemma indent_eq_typed {d : Document} (hd : d.Valid) : d.indent = d.typed d.indentUnit :=
  replaceRange_cursor hd d.indentUnit

/-- An indentation that was just typed is found again. -/
lemma indentStart?_typed {d : Document} (hd : d.Valid) :
    (d.typed d.indentUnit).indentStart? = some d.cursor := by
  have hv := valid_typed hd d.indentUnit
  have hl : (d.text.take d.cursor).length = d.cursor := List.length_take_of_le hd
  have hn := length_take_append hd d.indentUnit
  have hs : (d.typed d.indentUnit).cursor - (d.typed d.indentUnit).indentUnit.length =
      d.cursor := by
    simp [typed]
  have hr : (d.typed d.indentUnit).getRange d.cursor (d.typed d.indentUnit).cursor =
      d.indentUnit := by
    have ht : (d.typed d.indentUnit).text.take (d.typed d.indentUnit).cursor =
        d.text.take d.cursor ++ d.indentUnit := by
      simp only [typed]
      rw [List.take_left' hn]
    have hc : d.cursor ≤ (d.typed d.indentUnit).text.length := by
      rw [length_typed hd]
      exact Nat.le_trans hd (Nat.le_add_right _ _)
    rw [getRange, clamp_natCast hv, clamp_natCast hc, ht, List.drop_left' hl]
  rw [indentStart?, hs, hr]
  simp [typed]

/-- Taking an indentation back keeps the cursor in the text. -/
theorem valid_unindent {d : Document} (hd : d.Valid) : d.unindent.Valid := by
  unfold unindent
  split
  · exact valid_replaceRange hd _ _ _
  · exact hd

/-- **An indentation can be taken back,** whatever text stands before the cursor. -/
theorem unindent_indent {d : Document} (hd : d.Valid) : d.indent.unindent = d := by
  rw [indent_eq_typed hd, unindent, indentStart?_typed hd]
  exact replaceRange_typed hd d.indentUnit

/-! ## Expansions -/

/-- **An expansion puts the cursor where it says:** moving the cursor after the replacement leaves
nothing of the rule by which the replacement moved it. -/
theorem setCursor_replaceRange {d : Document} {a b : Nat} (hab : a ≤ b) (hb : b ≤ d.text.length)
    {e : Expansion} (he : e.Placed) :
    (d.replaceRange a b e.text).setCursor (a + e.text.length - e.cursorBack) =
      d.expanded a b e := by
  obtain ⟨h0, h1⟩ := he
  have hc : ((a : Int) + e.text.length - e.cursorBack) =
      (a + (e.text.length - e.cursorBack.toNat) : Nat) := by omega
  have hn : a + (e.text.length - e.cursorBack.toNat) ≤ (d.replaceRange a b e.text).text.length := by
    rw [replaceRange_of_le hab hb]
    simp only [List.length_append, List.length_take, List.length_drop]
    omega
  rw [hc, setCursor, clamp_natCast hn, replaceRange_of_le hab hb]
  rfl

/-- An expansion leaves the cursor in the text. -/
theorem valid_expanded {d : Document} {a : Nat} (ha : a ≤ d.text.length) (b : Nat) (e : Expansion) :
    (d.expanded a b e).Valid := by
  simp only [Valid, expanded, List.length_append, List.length_take]
  omega

/-- An expansion that takes the place of what was typed leaves nothing of it. -/
lemma expanded_typed {d : Document} (hd : d.Valid) (s : Text) {a : Nat} (ha : a ≤ d.cursor)
    (e : Expansion) : (d.typed s).expanded a (d.typed s).cursor e = d.expanded a d.cursor e := by
  simp only [expanded, take_typed hd s ha, drop_typed hd s]
  rfl

/-- **What follows an expansion can go without a trace:** the cursor rests in the expansion and
does not move, and the document is as if the expansion had taken the place of all of it at
once. -/
theorem replaceRange_expanded {d : Document} {a b c : Nat} (hab : a ≤ b) (hbc : b ≤ c)
    (hc : c ≤ d.text.length) (e : Expansion) :
    ((d.expanded a b e).replaceRange (a + e.text.length : Nat) (a + e.text.length + (c - b) : Nat)
      []).setCursor (d.expanded a b e).cursor = d.expanded a c e := by
  have hla : (d.text.take a).length = a := List.length_take_of_le (by omega)
  have hle : (d.text.take a ++ e.text).length = a + e.text.length :=
    length_take_append (by omega) e.text
  have hlen : (d.expanded a b e).text.length = a + e.text.length + (d.text.length - b) := by
    simp only [expanded, List.length_append, hla, List.length_drop]
  have ht : (d.expanded a b e).text.take (a + e.text.length) = d.text.take a ++ e.text := by
    simp only [expanded]
    rw [List.take_left' hle]
  have hd : (d.expanded a b e).text.drop (a + e.text.length + (c - b)) = d.text.drop c := by
    simp only [expanded]
    rw [← hle, List.drop_append, List.drop_eq_nil_of_le (by omega), List.drop_drop]
    simp only [List.nil_append]
    congr 1
    omega
  rw [replaceRange_of_le (by omega) (by omega), ht, hd, List.append_nil]
  simp only [setCursor, clamp, clampTo, Int.toNat_natCast, expanded, List.length_append, hla]
  congr 1
  omega

end Document

end Shorthand
