import Shorthand.Proofs.Match.Anywhere

set_option autoImplicit false
set_option relaxedAutoImplicit false

/-!
# Triggers on one line

When triggers may not span lines, the search does not look at their line breaks: it only does not
go back beyond the start of the line. That comes to the same, for what ends a text without a line
break is no longer than its last line. So switching such triggers off is deleting them from the
table.

## Main definitions

* `Shorthand.Entries.onOneLine` — the entries of a table whose triggers have no line break.

## Main results

* `Shorthand.Text.length_le_lastLine_iff` — what ends a text is on its last line when it has no
  line break.
* `Shorthand.Match.stands_lineStart_iff` — where the search stops that does not go back beyond the
  line.
* `Shorthand.Match.tryTrigger_onOneLine` — switching triggers off that span lines is deleting them.
-/

namespace Shorthand

/-- What ends a text is on its last line when it has no line break. -/
lemma Text.length_le_lastLine_iff {s before : Text} (h : s <:+ before) :
    s.length ≤ (lastLine before).length ↔ '\n' ∉ s := by
  constructor
  · intro hle hmem
    have hs : s <:+ lastLine before :=
      List.suffix_of_suffix_length_le h (lastLine_suffix before) hle
    exact break_not_mem_lastLine before (hs.subset hmem)
  · intro hbreak
    obtain ⟨-, hline⟩ | ⟨above, habove⟩ := eq_lastLine_or before
    · rw [hline]
      exact h.length_le
    · by_contra hlt
      -- a longer end of the text has the line break before the last line in it
      have hline : '\n' :: lastLine before <:+ before := ⟨above, habove.symm⟩
      have hs : '\n' :: lastLine before <:+ s :=
        List.suffix_of_suffix_length_le hline h (by rw [List.length_cons]; omega)
      exact hbreak (hs.subset List.mem_cons_self)

/-- The entries of a table whose triggers have no line break, in order. -/
def Entries.onOneLine (snippets : Entries Expansion) : Entries Expansion :=
  snippets.filter fun e => !e.1.contains '\n'

namespace Match

variable {d : Document}

/-- Where the line of an offset starts, moved into the text. -/
def lineStart (d : Document) (offset : Int) : Nat :=
  d.clamp offset - (Text.lastLine (d.text.take (d.clamp offset))).length

/-- The search that does not go back beyond the line starts where that starts. -/
lemma sees_find_line (d : Document) (offset : Int) (snippets : Entries Expansion) :
    (find offset snippets false).Sees d (standing? d offset (lineStart d offset) snippets) := by
  have hclamp : d.clamp offset ≤ d.text.length := d.clamp_le offset
  have hline := d.offsetToPos_clamp offset
  have hfloor : (floor offset false).Sees d (lineStart d offset : Int) := by
    have hpos := Host.sees_posToOffset d (d.offsetToPos offset).1 0
    rw [← hline, Document.posToOffset_line hclamp, hline] at hpos
    exact (Host.sees_offsetToPos d offset).bind hpos
  exact hfloor.bind (sees_findFrom d offset _ snippets)

/-- **The search that does not go back beyond the line** stops where a search of whole texts does,
if there is no line break in the trigger. -/
theorem stands_lineStart_iff (d : Document) (offset : Int) (trigger : Text) :
    Stands d offset (lineStart d offset) trigger ↔ '\n' ∉ trigger ∧ Stands d offset 0 trigger := by
  have hstart : (0 : Int) ≤ lineStart d offset := Int.natCast_nonneg _
  rcases Int.lt_or_le offset 0 with hneg | hpos
  · exact iff_of_false (stands_of_neg hneg hstart) fun h => stands_of_neg hneg (Int.le_refl 0) h.2
  obtain ⟨n, rfl⟩ := Int.eq_ofNat_of_zero_le hpos
  rcases Nat.lt_or_ge d.text.length n with hgt | hn
  · have hoffset : (d.text.length : Int) < n := Int.ofNat_lt.mpr hgt
    have hle : (lineStart d n : Int) ≤ n := by
      have := d.clamp_le n
      simp only [lineStart]
      omega
    rw [stands_of_gt hoffset, stands_of_gt hoffset]
    constructor
    · rintro ⟨rfl, -⟩
      exact ⟨List.not_mem_nil, rfl, hpos⟩
    · rintro ⟨-, rfl, -⟩
      exact ⟨rfl, hle⟩
  · rw [stands_natCast hn hstart, stands_zero_iff hn, and_comm, and_congr_left_iff]
    intro hends
    have hlen := hends.length_le
    have hline := (Text.lastLine_suffix (d.text.take n)).length_le
    rw [List.length_take_of_le hn] at hlen hline
    rw [← Text.length_le_lastLine_iff hends, lineStart, Document.clamp_natCast hn]
    omega

/-- The first entry at which it stops is the first of those without a line break at which the
other does. -/
lemma standing?_lineStart (d : Document) (offset : Int) (snippets : Entries Expansion) :
    standing? d offset (lineStart d offset) snippets =
      standing? d offset 0 (Entries.onOneLine snippets) := by
  have hstands (e : Text × Expansion) :
      decide (Stands d offset (lineStart d offset) e.1) =
        (!e.1.contains '\n' && decide (Stands d offset 0 e.1)) := by
    simp [stands_lineStart_iff]
  rw [standing?, standing?, Entries.onOneLine, List.find?_filter]
  simp only [hstands, Bool.decide_and, Bool.decide_eq_true]

/-- Trying a trigger comes to an end, and depends on nothing but what is found. -/
lemma exists_run_tryTrigger {h : Host} (hh : h.Holds d) {offset : Int}
    {snippets other : Entries Expansion} {multiline whole : Bool} {found : Option Match}
    (hfind : (find offset snippets multiline).Sees d found)
    (hfind' : (find offset other whole).Sees d found) :
    ∃ h', tryTrigger offset snippets multiline h = .ok (found.map (·.snippet)) h' ∧
      tryTrigger offset other whole h = .ok (found.map (·.snippet)) h' := by
  cases found with
  | none => exact ⟨h, sees_tryTrigger_none hfind h hh, sees_tryTrigger_none hfind' h hh⟩
  | some m => exact ⟨_, run_tryTrigger_some hh hfind, run_tryTrigger_some hh hfind'⟩

/-- **Switching triggers off that span lines is deleting them from the table:** the same is found,
at any offset and with any table, and trying a trigger returns the same snippet and leaves the
same document. -/
theorem tryTrigger_onOneLine {h : Host} (hr : h.refusal = none) (offset : Int)
    (snippets : Entries Expansion) :
    (∃ found, find offset snippets false h = .ok found h ∧
        find offset (Entries.onOneLine snippets) true h = .ok found h) ∧
      ∃ found h', tryTrigger offset snippets false h = .ok found h' ∧
        tryTrigger offset (Entries.onOneLine snippets) true h = .ok found h' := by
  have hh : h.Holds h.document := ⟨rfl, hr⟩
  have hline := sees_find_line h.document offset snippets
  have hwhole := sees_find_multiline h.document offset (Entries.onOneLine snippets)
  rw [standing?_lineStart] at hline
  exact ⟨⟨_, hline h hh, hwhole h hh⟩, _, exists_run_tryTrigger hh hline hwhole⟩

/-- A trigger that spans lines comes first in the table, and one that is on its last line comes
second: only the second is expanded. -/
theorem tryTrigger_onOneLine_second :
    ∃ (h : Host) (snippets : Entries Expansion), h.refusal = none ∧
      Entries.keys snippets = ["a\nb".toList, "b".toList] ∧
      ∃ h', h'.document = { text := "a\nbb".toList, cursor := 4 } ∧
        tryTrigger 3 snippets false h = .ok (some ⟨"b".toList, { text := "bb".toList }⟩) h' ∧
        tryTrigger 3 (Entries.onOneLine snippets) true h =
          .ok (some ⟨"b".toList, { text := "bb".toList }⟩) h' := by
  let h : Host := { document := { text := "a\nb".toList, cursor := 3 } }
  let snippets : Entries Expansion :=
    [("a\nb".toList, { text := "line".toList }), ("b".toList, { text := "bb".toList })]
  obtain ⟨-, found, h', hline, hwhole⟩ := tryTrigger_onOneLine (h := h) rfl 3 snippets
  have hrun : ∃ h₁, h₁.document = { text := "a\nbb".toList, cursor := 4 } ∧
      tryTrigger 3 snippets false h = .ok (some ⟨"b".toList, { text := "bb".toList }⟩) h₁ :=
    ⟨_, rfl, rfl⟩
  obtain ⟨h₁, hdocument, hrun⟩ := hrun
  cases hline.symm.trans hrun
  exact ⟨h, snippets, rfl, rfl, h', hdocument, hline, hwhole⟩

end Match

end Shorthand
