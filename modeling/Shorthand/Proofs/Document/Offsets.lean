import Mathlib.Data.Prod.Lex
import Mathlib.Data.Set.Function
import Mathlib.Order.Bounds.Defs
import Mathlib.Order.Interval.Set.Defs
import Shorthand.Proofs.Document.Position

set_option autoImplicit false
set_option relaxedAutoImplicit false

/-!
# Offsets and positions

The position of an offset is found by counting in the text before it, the offset of a position by
adding up the lengths of lines. This file shows that the two go back and forth: offsets in the
text and positions that exist correspond one to one, in the same order, and everything else is
moved to the nearest that exists.

## Main results

* `Shorthand.Document.bijOn_offsetToPos` — offsets in the text correspond to the positions that
  exist.
* `Shorthand.Document.strictMonoOn_offsetToPos` — a later offset has a later position.
* `Shorthand.Document.isGreatest_lineEndOffset` — a line ends at the last offset that is on it.
* `Shorthand.Document.offsets_correspond` — all that, for any integers.
-/

namespace Shorthand.Document

variable {d : Document} {n l c : ℕ}

/-! ## From an offset to its position and back -/

/-- **The position of an offset leads back to it.** -/
theorem posToOffset_offsetToPos (hn : n ≤ d.text.length) :
    d.posToOffset (d.offsetToPos n).1 (d.offsetToPos n).2 = n := by
  have hcolumn := posToOffset_breaks d hn (Text.lastLine (d.text.take n)).length
  rw [List.length_append] at hcolumn
  rw [offsetToPos_natCast hn]
  dsimp only
  omega

/-- The position of an offset exists. -/
lemma offsetToPos_le (hn : n ≤ d.text.length) :
    (d.offsetToPos n).1 < d.lineCount ∧ (d.offsetToPos n).2 ≤ d.lineLength (d.offsetToPos n).1 := by
  rw [offsetToPos_natCast hn]
  refine ⟨line_lt_lineCount d n, ?_⟩
  rw [lineLength_breaks]
  exact Nat.le_add_right _ _

/-! ## From a position to its offset and back -/

/-- **Every position that exists is that of an offset:** as far behind the start of its line as it
has columns. -/
theorem exists_offset (hl : l < d.lineCount) (hc : c ≤ d.lineLength l) :
    ∃ n ≤ d.text.length, d.offsetToPos n = (l, c) := by
  obtain ⟨a, b, htext, hbreaks, hstart⟩ := Text.exists_lineStart (s := d.text) hl
  have htake : d.text.take a.length = a := by rw [htext, List.take_left]
  have hlength := lineLength_breaks d a.length
  rw [htake, hbreaks, hstart, htext, List.drop_left, List.length_nil, Nat.zero_add] at hlength
  have hprefix := Text.firstLine_prefix b
  have hle := hprefix.length_le
  have hbreak : '\n' ∉ b.take c := by
    have hcolumns : b.take c <+: Text.firstLine b :=
      List.prefix_of_prefix_length_le (List.take_prefix c b) hprefix
        (by rw [List.length_take]; omega)
    exact fun hm => Text.break_not_mem_firstLine b (hcolumns.subset hm)
  have hn : a.length + c ≤ d.text.length := by
    rw [htext, List.length_append]
    omega
  have htake' : d.text.take (a.length + c) = a ++ b.take c := by
    rw [htext, List.take_length_add_append]
  refine ⟨a.length + c, hn, ?_⟩
  rw [offsetToPos_natCast hn, htake', Text.breaks_append, Text.breaks_eq_zero.mpr hbreak, hbreaks,
    Text.lastLine_append a hbreak, hstart, List.nil_append, List.length_take_of_le (by omega),
    Nat.add_zero]

/-- **The offset of a position that exists leads back to it.** -/
theorem offsetToPos_posToOffset (hl : l < d.lineCount) (hc : c ≤ d.lineLength l) :
    d.offsetToPos (d.posToOffset l c) = (l, c) := by
  obtain ⟨n, hn, hpos⟩ := exists_offset hl hc
  have hback := posToOffset_offsetToPos hn
  rw [hpos] at hback
  rw [hback, hpos]

/-- Any other position is moved to one that exists first: the line among the lines, then the
column into the line. -/
lemma posToOffset_moved (d : Document) (line column : ℤ) :
    let l := min line.toNat (d.lineCount - 1)
    d.posToOffset line column = d.posToOffset l (min column.toNat (d.lineLength l) : ℕ) := by
  have hl : min (min line.toNat (d.lineCount - 1)) (d.lineCount - 1) =
      min line.toNat (d.lineCount - 1) := by omega
  simp only [posToOffset, lineLength, Int.toNat_natCast, hl, Int.natCast_nonneg, if_true,
    Nat.min_assoc, Nat.min_self]

/-- **Offsets in the text correspond to the positions that exist.** -/
theorem bijOn_offsetToPos (d : Document) :
    Set.BijOn (fun n : ℕ => d.offsetToPos n) (Set.Iic d.text.length)
      {p | p.1 < d.lineCount ∧ p.2 ≤ d.lineLength p.1} := by
  refine ⟨fun n hn => offsetToPos_le hn, fun n hn m hm h => ?_, fun p hp => ?_⟩
  · rw [← posToOffset_offsetToPos hn, ← posToOffset_offsetToPos hm]
    dsimp only at h
    rw [h]
  · obtain ⟨n, hn, hpos⟩ := exists_offset hp.1 hp.2
    exact ⟨n, hn, hpos⟩

/-! ## The order of offsets and positions -/

/-- **A later offset has a later position:** on a later line, or farther on the same. -/
theorem strictMonoOn_offsetToPos (d : Document) :
    StrictMonoOn (fun n : ℕ => toLex (d.offsetToPos n)) (Set.Iic d.text.length) := by
  intro n hn m hm hlt
  rw [Set.mem_Iic] at hn hm
  -- what stands before the later offset is what stands before the other, and some more
  obtain ⟨rest, hrest⟩ : ∃ rest, d.text.take m = d.text.take n ++ rest :=
    ⟨_, (List.prefix_iff_eq_append.mp (List.take_prefix_take_left hlt.le)).symm⟩
  have hlength := congrArg List.length hrest
  rw [List.length_append, List.length_take_of_le hn, List.length_take_of_le hm] at hlength
  show toLex (d.offsetToPos n) < toLex (d.offsetToPos m)
  rw [Prod.Lex.toLex_lt_toLex, offsetToPos_natCast hn, offsetToPos_natCast hm, hrest,
    Text.breaks_append]
  by_cases hbreak : '\n' ∈ rest
  · left
    have hpos := Nat.pos_of_ne_zero fun h => Text.breaks_eq_zero.mp h hbreak
    dsimp only
    omega
  · right
    rw [Text.lastLine_append _ hbreak, Text.breaks_eq_zero.mpr hbreak, List.length_append]
    dsimp only
    omega

/-- The position of the end of a line. -/
lemma offsetToPos_lineEndOffset (hl : l < d.lineCount) :
    d.offsetToPos (d.lineEndOffset l) = (l, d.lineLength l) :=
  offsetToPos_posToOffset hl (Nat.le_refl _)

/-- The end of a line is in the text. -/
lemma lineEndOffset_le (hl : l < d.lineCount) : d.lineEndOffset l ≤ d.text.length := by
  obtain ⟨n, hn, hpos⟩ := exists_offset hl (Nat.le_refl _)
  have hback := posToOffset_offsetToPos hn
  rw [hpos] at hback
  rwa [lineEndOffset, hback]

/-- **A line ends at the last offset that is on it.** -/
theorem isGreatest_lineEndOffset (hl : l < d.lineCount) :
    IsGreatest {n : ℕ | n ≤ d.text.length ∧ (d.offsetToPos n).1 = l} (d.lineEndOffset l) := by
  have hend := offsetToPos_lineEndOffset hl
  refine ⟨⟨lineEndOffset_le hl, by rw [hend]⟩, ?_⟩
  rintro n ⟨hn, hline⟩
  by_contra hlt
  have hlex := strictMonoOn_offsetToPos d (lineEndOffset_le hl) hn (Nat.lt_of_not_le hlt)
  have hcolumn := (offsetToPos_le hn).2
  rw [Prod.Lex.toLex_lt_toLex, hend, hline] at hlex
  rw [hline] at hcolumn
  dsimp only at hlex
  omega

/-- Nothing of the line stands behind its end: the text ends there, or a line break follows. -/
lemma lineEndOffset_eq_or (hl : l < d.lineCount) :
    d.lineEndOffset l = d.text.length ∨ d.text[d.lineEndOffset l]? = some '\n' := by
  have hle := lineEndOffset_le hl
  have hend := offsetToPos_lineEndOffset hl
  rw [offsetToPos_natCast hle, Prod.mk.injEq] at hend
  have hlength := lineLength_breaks d (d.lineEndOffset l)
  rw [hend.1, hend.2] at hlength
  have hnil : Text.firstLine (d.text.drop (d.lineEndOffset l)) = [] :=
    List.eq_nil_of_length_eq_zero (by omega)
  rcases Text.firstLine_eq_nil hnil with hdrop | hhead
  · left
    have := List.drop_eq_nil_iff.mp hdrop
    omega
  · right
    rwa [List.head?_drop] at hhead

/-- **Offsets and positions correspond one to one,** in the same order. The position of any
integer leads to the nearest offset in the text, and the offset of any line and column to the
nearest position: the line is moved among the lines, and the column into that line. A line ends at
the last offset that is on it, which is the end of the text or stands before a line break. -/
theorem offsets_correspond (d : Document) :
    Set.BijOn (fun n : ℕ => d.offsetToPos n) (Set.Iic d.text.length)
        {p | p.1 < d.lineCount ∧ p.2 ≤ d.lineLength p.1} ∧
      (∀ offset : ℤ, (d.posToOffset (d.offsetToPos offset).1 (d.offsetToPos offset).2 : ℤ) =
        max 0 (min offset d.text.length)) ∧
      (∀ line column : ℤ, ∃ l c : ℕ, (l : ℤ) = max 0 (min line (d.lineCount - 1)) ∧
        (c : ℤ) = max 0 (min column (d.lineLength l)) ∧
        d.offsetToPos (d.posToOffset line column) = (l, c)) ∧
      (∀ a b : ℤ, 0 ≤ a → a < b → b ≤ d.text.length →
        toLex (d.offsetToPos a) < toLex (d.offsetToPos b)) ∧
      ∀ line : ℕ, line < d.lineCount →
        IsGreatest {n : ℕ | n ≤ d.text.length ∧ (d.offsetToPos n).1 = line} (d.lineEndOffset line) ∧
        (d.lineEndOffset line = d.text.length ∨ d.text[d.lineEndOffset line]? = some '\n') := by
  have hlines : 0 < d.lineCount := Nat.zero_lt_of_lt (line_lt_lineCount d 0)
  refine ⟨bijOn_offsetToPos d, fun offset => ?offset, fun line column => ?position,
    fun a b ha hlt hb => ?order, fun line hl => ?lineEnd⟩
  case offset =>
    rw [← offsetToPos_clamp, posToOffset_offsetToPos (d.clamp_le offset), cast_clamp]
  case position =>
    let l := min line.toNat (d.lineCount - 1)
    have hl : l < d.lineCount := by omega
    have hpos := offsetToPos_posToOffset hl (Nat.min_le_right column.toNat (d.lineLength l))
    rw [← posToOffset_moved] at hpos
    exact ⟨l, min column.toNat (d.lineLength l), by omega, by omega, hpos⟩
  case order =>
    obtain ⟨n, rfl⟩ := Int.eq_ofNat_of_zero_le ha
    obtain ⟨m, rfl⟩ := Int.eq_ofNat_of_zero_le (by omega : 0 ≤ b)
    exact strictMonoOn_offsetToPos d (Int.ofNat_le.mp (by omega)) (Int.ofNat_le.mp hb)
      (Int.ofNat_lt.mp hlt)
  case lineEnd => exact ⟨isGreatest_lineEndOffset hl, lineEndOffset_eq_or hl⟩

end Shorthand.Document
