import Shorthand.Proofs.Document.Edit

set_option autoImplicit false
set_option relaxedAutoImplicit false

/-!
# The cursor stays with its text

A replacement moves the cursor so that it stays with the text beside it: behind the range with
what follows, before the range with what precedes, and inside it with the end of the new text. At
the ends of the range only one of these texts stays. A cursor at the stop of the range goes with
what follows, also when the range is empty, so what is typed at a cursor stands before it and can
be taken back.

## Main results

* `Shorthand.Document.replaceRange_eq` — any two integers are a range in the text.
* `Shorthand.Document.drop_replaceRange`, `Shorthand.Document.take_replaceRange`,
  `Shorthand.Document.cursor_replaceRange` — a cursor behind, before and inside the range.
* `Shorthand.Document.text_replaceRange_replaceRange` — a replacement can be taken back.
* `Shorthand.Document.replaceRange_attached` — all that, for any integers.
-/

namespace Shorthand.Document

variable {d : Document} {a b : Nat}

/-- Any two integers are a range in the text: they are moved into it and put in order. -/
lemma replaceRange_eq (d : Document) (start stop : Int) (s : Text) :
    d.replaceRange start stop s =
      d.replaceRange (min (d.clamp start) (d.clamp stop) : Nat)
        (max (d.clamp start) (d.clamp stop) : Nat) s := by
  have hstart := d.clamp_le start
  have hstop := d.clamp_le stop
  rw [replaceRange_of_le (by omega) (by omega)]
  rfl

/-! ## Where the cursor goes -/

/-- **A cursor behind the range** keeps the text that follows it. -/
theorem drop_replaceRange (hab : a ≤ b) (hb : b ≤ d.text.length) (hk : b ≤ d.cursor) (s : Text) :
    (d.replaceRange a b s).text.drop (d.replaceRange a b s).cursor = d.text.drop d.cursor := by
  have hl : (d.text.take a ++ s).length = a + s.length := length_take_append (by omega) s
  have hcursor : d.cursor - (b - a) + s.length = (d.text.take a ++ s).length + (d.cursor - b) := by
    omega
  rw [replaceRange_of_le hab hb, if_pos hk, hcursor, List.drop_length_add_append, List.drop_drop]
  congr 1
  omega

/-- **A cursor before the range** keeps the text that precedes it, and does not move. -/
theorem take_replaceRange (hab : a ≤ b) (hb : b ≤ d.text.length) (hk : d.cursor < b)
    (hka : d.cursor ≤ a) (s : Text) :
    (d.replaceRange a b s).cursor = d.cursor ∧
      (d.replaceRange a b s).text.take d.cursor = d.text.take d.cursor := by
  have hl : (d.text.take a).length = a := List.length_take_of_le (by omega)
  rw [replaceRange_of_le hab hb, if_neg (by omega), if_neg (by omega)]
  refine ⟨rfl, ?_⟩
  rw [List.append_assoc, List.take_append_of_le_length (by omega), List.take_take,
    Nat.min_eq_left hka]

/-- **A cursor inside the range** goes to the end of the new text. -/
theorem cursor_replaceRange (hb : b ≤ d.text.length) (hak : a < d.cursor) (hkb : d.cursor < b)
    (s : Text) :
    (d.replaceRange a b s).cursor = a + s.length ∧
      (d.replaceRange a b s).text.take (a + s.length) = d.text.take a ++ s := by
  have hl : (d.text.take a ++ s).length = a + s.length := length_take_append (by omega) s
  rw [replaceRange_of_le (by omega) hb, if_neg (by omega), if_pos hak]
  exact ⟨rfl, List.take_left' hl⟩

/-! ## Taking a replacement back -/

/-- **A replacement can be taken back** by putting the old text in the place of the new one. -/
theorem text_replaceRange_replaceRange (hab : a ≤ b) (hb : b ≤ d.text.length) (s : Text) :
    ((d.replaceRange a b s).replaceRange a (a + s.length : Nat) (d.getRange a b)).text =
      d.text := by
  have hl : (d.text.take a).length = a := List.length_take_of_le (by omega)
  have hl' : (d.text.take a ++ s).length = a + s.length := length_take_append (by omega) s
  have htext : (d.replaceRange a b s).text = d.text.take a ++ s ++ d.text.drop b := by
    rw [replaceRange_of_le hab hb]
  have hlength : a + s.length ≤ (d.replaceRange a b s).text.length := by
    rw [htext, List.length_append]
    omega
  have hbefore : (d.text.take a ++ s ++ d.text.drop b).take a = d.text.take a := by
    rw [List.append_assoc, List.take_left' hl]
  have hbehind : (d.text.take a ++ s ++ d.text.drop b).drop (a + s.length) = d.text.drop b :=
    List.drop_left' hl'
  have hold : d.getRange a b = (d.text.take b).drop a := by
    rw [getRange, clamp_natCast hb, clamp_natCast (Nat.le_trans hab hb)]
  have hfront : d.text.take a ++ (d.text.take b).drop a = d.text.take b := by
    have hcut : d.text.take a = (d.text.take b).take a := by
      rw [List.take_take, Nat.min_eq_left hab]
    rw [hcut, List.take_append_drop]
  rw [replaceRange_of_le (Nat.le_add_right _ _) hlength, htext, hbefore, hbehind, hold, hfront,
    List.take_append_drop]

/-- **The cursor stays with its text** when any range is replaced: the ends of the range are moved
into the text and put in order. A cursor at or behind the stop keeps what follows it, any other
one at or before the start does not move and keeps what precedes it, and one inside goes to the
end of the new text. So an indentation can be taken back, with the cursor, and the text of any
replacement. -/
theorem replaceRange_attached (hd : d.Valid) (start stop : Int) (s : Text) :
    ∃ a b : Nat,
      (a : Int) = min (max 0 (min start d.text.length)) (max 0 (min stop d.text.length)) ∧
      (b : Int) = max (max 0 (min start d.text.length)) (max 0 (min stop d.text.length)) ∧
      a ≤ b ∧ b ≤ d.text.length ∧
      let d' := d.replaceRange start stop s
      d'.text = d.text.take a ++ s ++ d.text.drop b ∧
        (b ≤ d.cursor → d'.text.drop d'.cursor = d.text.drop d.cursor) ∧
        (d.cursor < b → d.cursor ≤ a →
          d'.cursor = d.cursor ∧ d'.text.take d'.cursor = d.text.take d.cursor) ∧
        (a < d.cursor → d.cursor < b →
          d'.cursor = a + s.length ∧ d'.text.take d'.cursor = d.text.take a ++ s) ∧
        d.indent.unindent = d ∧
        (d'.replaceRange a (a + s.length : Nat) (d.getRange a b)).text = d.text := by
  have hstart := d.clamp_le start
  have hstop := d.clamp_le stop
  have ha := d.cast_clamp start
  have hb := d.cast_clamp stop
  refine ⟨min (d.clamp start) (d.clamp stop), max (d.clamp start) (d.clamp stop), by omega,
    by omega, by omega, by omega, ?_⟩
  rw [replaceRange_eq]
  have hab : min (d.clamp start) (d.clamp stop) ≤ max (d.clamp start) (d.clamp stop) := by omega
  have hb : max (d.clamp start) (d.clamp stop) ≤ d.text.length := by omega
  generalize min (d.clamp start) (d.clamp stop) = a at hab
  generalize max (d.clamp start) (d.clamp stop) = b at hab hb
  refine ⟨?_, drop_replaceRange hab hb (s := s), fun hk hka => ?_, fun hak hkb => ?_,
    unindent_indent hd, text_replaceRange_replaceRange hab hb s⟩
  · rw [replaceRange_of_le hab hb]
  · have hbefore := take_replaceRange hab hb hk hka s
    rw [hbefore.1]
    exact ⟨rfl, hbefore.2⟩
  · have hinside := cursor_replaceRange hb hak hkb s
    rw [hinside.1]
    exact ⟨rfl, hinside.2⟩

/-- A range that is given from its stop, behind the text, to its start, with the cursor inside. -/
theorem replaceRange_attached_reversed :
    let d : Document := { text := "abcdef".toList, cursor := 5 }
    d.Valid ∧ (d.replaceRange 9 1 "xy".toList).text = "axy".toList ∧
      (d.replaceRange 9 1 "xy".toList).cursor = 3 ∧
      ((d.replaceRange 9 1 "xy".toList).replaceRange 1 3 (d.getRange 1 6)).text = d.text ∧
      d.indent.unindent = d := by
  intro d
  have hd : d.Valid := (by decide : 5 ≤ 6)
  obtain ⟨a, b, ha, hb, -, -, htext, -, -, hinside, hindent, hback⟩ :=
    replaceRange_attached hd 9 1 "xy".toList
  have hlength : d.text.length = 6 := rfl
  obtain rfl : a = 1 := by omega
  obtain rfl : b = 6 := by omega
  exact ⟨hd, htext, (hinside (by decide) (by decide)).1, hback, hindent⟩

end Shorthand.Document
