import Mathlib.Data.List.TakeWhile
import Shorthand.Proofs.Text.Occurrence
import Shorthand.Text.Newlines

set_option autoImplicit false
set_option relaxedAutoImplicit false

/-!
# Lines of a text

A text is cut into lines at its line breaks, and a place in it is found by counting the breaks
before it. This file ties the two together: the line that a place is on, what stands on it before
the place and after it, and how much room the lines before it take.

## Main definitions

* `Shorthand.Text.firstLine` — what precedes the first line break.
* `Shorthand.Text.room` — the room that lines take, each with its line break.

## Main results

* `Shorthand.Text.lines_append_break` — a line break separates the lines before and after it.
* `Shorthand.Text.splitOn_break` — lines are pieces between line breaks.
* `Shorthand.Text.exists_lineStart` — where a line starts.
* `Shorthand.Text.getElem?_lines_append` — the line of a place, in two halves.
* `Shorthand.Text.getElem?_lines_replaced` — within a line only that line changes.
* `Shorthand.Text.room_take_lines` — where the line of a place starts.
-/

namespace Shorthand.Text

/-! ## Cutting at line breaks -/

/-- What precedes the first line feed. -/
def firstLine (s : Text) : Text := s.takeWhile (· != '\n')

/-- A line feed ends an empty line. -/
@[simp] lemma lines_break (s : Text) : lines ('\n' :: s) = [] :: lines s := by
  simp [lines]

/-- There is always a line. -/
lemma lines_ne_nil (s : Text) : lines s ≠ [] := by
  induction s with
  | nil => simp [lines]
  | cons c rest ih =>
    by_cases hc : c = '\n'
    · rw [hc, lines_break]
      exact List.cons_ne_nil _ _
    · simp only [lines, if_neg hc]
      split <;> exact List.cons_ne_nil _ _

/-- A character that is no line feed joins the first line. -/
lemma lines_cons_of_ne {c : Char} (hc : c ≠ '\n') {s line : Text} {others : List Text}
    (h : lines s = line :: others) : lines (c :: s) = (c :: line) :: others := by
  simp [lines, hc, h]

/-- **A line break separates** the lines before it from those after it.

**Proof sketch.** Induction on the text before the break. Its first character opens a line of its
own when it is a break, and otherwise joins the first line of the rest, which is the same with and
without what follows. -/
theorem lines_append_break (a b : Text) : lines (a ++ '\n' :: b) = lines a ++ lines b := by
  induction a with
  | nil => simp [lines]
  | cons c rest ih =>
    by_cases hc : c = '\n'
    · rw [hc, List.cons_append, lines_break, lines_break, ih, List.cons_append]
    · obtain ⟨line, others, hl⟩ := List.exists_cons_of_ne_nil (lines_ne_nil rest)
      rw [hl, List.cons_append] at ih
      rw [List.cons_append, lines_cons_of_ne hc ih, lines_cons_of_ne hc hl, List.cons_append]

/-- A text without a line feed is one line. -/
lemma lines_of_not_mem {s : Text} (h : '\n' ∉ s) : lines s = [s] := by
  induction s with
  | nil => rfl
  | cons c rest ih =>
    have hc : c ≠ '\n' := fun e => h (e ▸ List.mem_cons_self)
    exact lines_cons_of_ne hc (ih fun hrest => h (List.mem_cons_of_mem _ hrest))

/-- The pieces between line feeds are lines. -/
lemma Splits.eq_lines {s : Text} {pieces : List Text} (h : Splits ['\n'] s pieces) :
    pieces = lines s := by
  induction h with
  | whole hno => rw [lines_of_not_mem fun h => hno ((List.singleton_infix_iff _ _).mpr h)]
  | @cut a b pieces hfirst _ ih =>
    have ha : '\n' ∉ a := by
      rw [List.append_assoc] at hfirst
      exact fun h => hfirst.not_infix (List.cons_ne_nil _ _) ((List.singleton_infix_iff _ _).mpr h)
    rw [List.append_assoc, List.singleton_append, lines_append_break, lines_of_not_mem ha, ih,
      List.singleton_append]

/-- **A text splits at line feeds into its lines.** -/
theorem splitOn_break (s : Text) : splitOn ['\n'] s = lines s :=
  (splits_splitOn (List.cons_ne_nil _ _) s).eq_lines

/-- There is one more line than there are line feeds. -/
@[simp] lemma length_lines (s : Text) : (lines s).length = breaks s + 1 := by
  induction s with
  | nil => rfl
  | cons c rest ih =>
    by_cases hc : c = '\n'
    · rw [hc, lines_break, List.length_cons, ih]
      simp [breaks]
    · obtain ⟨line, others, hl⟩ := List.exists_cons_of_ne_nil (lines_ne_nil rest)
      rw [lines_cons_of_ne hc hl, List.length_cons, ← List.length_cons (a := line), ← hl, ih]
      simp [breaks, hc]

/-- The line feeds of two texts. -/
@[simp] lemma breaks_append (a b : Text) : breaks (a ++ b) = breaks a + breaks b :=
  List.count_append

/-- A line feed counts as one. -/
@[simp] lemma breaks_break (s : Text) : breaks ('\n' :: s) = breaks s + 1 := by
  simp [breaks]

/-- A text without a line feed has none to count. -/
lemma breaks_eq_zero {s : Text} : breaks s = 0 ↔ '\n' ∉ s := List.count_eq_zero

/-! ## First and last lines -/

/-- The first of the lines. -/
lemma getElem?_zero_lines (s : Text) : (lines s)[0]? = some (firstLine s) := by
  induction s with
  | nil => rfl
  | cons c rest ih =>
    by_cases hc : c = '\n'
    · rw [hc, lines_break]
      rfl
    · obtain ⟨line, others, hl⟩ := List.exists_cons_of_ne_nil (lines_ne_nil rest)
      rw [hl, List.getElem?_cons_zero, Option.some.injEq] at ih
      rw [lines_cons_of_ne hc hl, List.getElem?_cons_zero, ih]
      simp [firstLine, hc]

/-- No character of a text without a line feed is one. -/
private lemma ne_break {s : Text} (h : '\n' ∉ s) : ∀ c ∈ s, (c != '\n') = true := by
  intro c hc
  have hne : c ≠ '\n' := fun e => h (by rwa [← e])
  simpa using hne

/-- A line has no line feed. -/
lemma break_not_mem_lastLine (s : Text) : '\n' ∉ lastLine s := by
  intro h
  have hm := List.mem_takeWhile_imp (List.mem_reverse.mp h)
  simp at hm

/-- The last line of a text without a line feed is the text. -/
lemma lastLine_of_not_mem {s : Text} (h : '\n' ∉ s) : lastLine s = s := by
  have hs : s.reverse.takeWhile (· != '\n') = s.reverse :=
    List.takeWhile_eq_self_iff.mpr fun c hc => ne_break h c (List.mem_reverse.mp hc)
  rw [lastLine, hs, List.reverse_reverse]

/-- What follows without a line feed joins the last line. -/
lemma lastLine_append (a : Text) {b : Text} (h : '\n' ∉ b) :
    lastLine (a ++ b) = lastLine a ++ b := by
  have hb : ∀ c ∈ b.reverse, (c != '\n') = true := fun c hc =>
    ne_break h c (List.mem_reverse.mp hc)
  rw [lastLine, List.reverse_append, List.takeWhile_append_of_pos hb, List.reverse_append,
    List.reverse_reverse, lastLine]

/-- The last line is what follows the last line feed. -/
lemma lastLine_append_break (a : Text) {b : Text} (h : '\n' ∉ b) :
    lastLine (a ++ '\n' :: b) = b := by
  have hnew : lastLine (a ++ ['\n']) = [] := by
    rw [lastLine, List.reverse_append]
    rfl
  rw [List.append_cons, lastLine_append _ h, hnew, List.nil_append]

/-- **A text is its last line,** or that line follows a line feed. -/
theorem eq_lastLine_or (s : Text) :
    ('\n' ∉ s ∧ lastLine s = s) ∨ ∃ a, s = a ++ '\n' :: lastLine s := by
  by_cases h : '\n' ∈ s
  · right
    obtain ⟨a, b, rfl, hb⟩ := exists_last_of_mem h
    exact ⟨a, by rw [lastLine_append_break _ hb]⟩
  · exact .inl ⟨h, lastLine_of_not_mem h⟩

/-- The last line ends the text. -/
lemma lastLine_suffix (s : Text) : lastLine s <:+ s := by
  obtain ⟨-, hs⟩ | ⟨a, ha⟩ := eq_lastLine_or s
  · exact ⟨[], by rw [hs, List.nil_append]⟩
  · exact ⟨a ++ ['\n'], by rw [List.append_assoc]; exact ha.symm⟩

/-! ## The line of a place -/

/-- The first line starts the text. -/
lemma firstLine_prefix (s : Text) : firstLine s <+: s := List.takeWhile_prefix _

/-- It has no line feed. -/
lemma break_not_mem_firstLine (s : Text) : '\n' ∉ firstLine s := by
  intro h
  have hm := List.mem_takeWhile_imp h
  simp at hm

/-- It is empty at the end of the text and before a line feed. -/
lemma firstLine_eq_nil {s : Text} (h : firstLine s = []) : s = [] ∨ s.head? = some '\n' := by
  cases s with
  | nil => exact .inl rfl
  | cons c rest =>
    right
    by_contra hc
    have hc : c ≠ '\n' := fun e => hc (congrArg some e)
    simp [firstLine, hc] at h

/-- **Where a line starts:** as many line feeds stand before it as there are lines, and nothing of
a line.

**Proof sketch.** Induction on the text. The last line starts behind the last line feed, and any
other line is one of the text before that. -/
theorem exists_lineStart {s : Text} {l : ℕ} (h : l < (lines s).length) :
    ∃ a b, s = a ++ b ∧ breaks a = l ∧ lastLine a = [] := by
  induction hn : s.length using Nat.strongRecOn generalizing s with
  | ind n ih =>
    rw [length_lines] at h
    obtain ⟨hbreak, -⟩ | ⟨p, hp⟩ := eq_lastLine_or s
    · rw [breaks_eq_zero.mpr hbreak] at h
      exact ⟨[], s, rfl, by rw [Nat.lt_one_iff.mp h]; rfl, rfl⟩
    · have hbreaks : breaks s = breaks p + 1 := by
        rw [hp, breaks_append, breaks_break, breaks_eq_zero.mpr (break_not_mem_lastLine s)]
      have hlength := congrArg List.length hp
      rw [List.length_append, List.length_cons] at hlength
      by_cases hl : l = breaks p + 1
      · refine ⟨p ++ ['\n'], lastLine s, by rw [List.append_assoc]; exact hp, ?_, ?_⟩
        · rw [breaks_append, breaks_break, hl]
          rfl
        · exact lastLine_append_break p List.not_mem_nil
      · have hlt : l < (lines p).length := by
          rw [length_lines]
          omega
        obtain ⟨a, b, hab, ha, hstart⟩ := ih p.length (by omega) hlt rfl
        refine ⟨a, b ++ '\n' :: lastLine s, ?_, ha, hstart⟩
        rw [← List.append_assoc, ← hab]
        exact hp

/-- The first line of a text that starts without a line feed. -/
lemma firstLine_append {a : Text} (h : '\n' ∉ a) (b : Text) :
    firstLine (a ++ b) = a ++ firstLine b := by
  rw [firstLine, List.takeWhile_append_of_pos (ne_break h), firstLine]

/-- **The line of a place** is what follows the last line feed before it and what precedes the first
one after it. -/
theorem getElem?_lines_append (a b : Text) :
    (lines (a ++ b))[breaks a]? = some (lastLine a ++ firstLine b) := by
  obtain ⟨ha, hl⟩ | ⟨p, hp⟩ := eq_lastLine_or a
  · rw [breaks_eq_zero.mpr ha, getElem?_zero_lines, firstLine_append ha, hl]
  · have hl : '\n' ∉ lastLine a := break_not_mem_lastLine a
    have hn : breaks a = (lines p).length := by
      rw [hp, breaks_append, breaks_break, breaks_eq_zero.mpr hl, length_lines]
    rw [hn, hp, List.append_assoc, List.cons_append, lines_append_break,
      List.getElem?_append_right (Nat.le_refl _), Nat.sub_self, getElem?_zero_lines,
      firstLine_append hl, ← hp]

/-- The lines before that of a place are those of the text before it. -/
lemma getElem?_lines_of_lt {a : Text} {l : ℕ} (hl : l < breaks a) (b : Text) :
    (lines (a ++ b))[l]? = (lines a)[l]? := by
  obtain ⟨hbreak, -⟩ | ⟨p, hp⟩ := eq_lastLine_or a
  · rw [breaks_eq_zero.mpr hbreak] at hl
    exact absurd hl (Nat.not_lt_zero l)
  · have hlt : l < (lines p).length := by
      rw [hp, breaks_append, breaks_break, breaks_eq_zero.mpr (break_not_mem_lastLine a)] at hl
      rw [length_lines]
      exact hl
    rw [hp, List.append_assoc, List.cons_append, lines_append_break, lines_append_break,
      List.getElem?_append_left hlt, List.getElem?_append_left hlt]

/-- The lines behind that of a place are those of the text behind it, but for the first. -/
lemma getElem?_lines_of_gt {a : Text} {l : ℕ} (hl : breaks a < l) (b : Text) :
    (lines (a ++ b))[l]? = (lines b)[l - breaks a]? := by
  by_cases hbreak : '\n' ∈ b
  · obtain ⟨line, rest, rfl, hline⟩ := List.eq_append_cons_of_mem hbreak
    have hbefore : (lines (a ++ line)).length = breaks a + 1 := by
      rw [length_lines, breaks_append, breaks_eq_zero.mpr hline, Nat.add_zero]
    have hfirst : (lines line).length = 1 := by rw [length_lines, breaks_eq_zero.mpr hline]
    rw [← List.append_assoc, lines_append_break, lines_append_break,
      List.getElem?_append_right (by omega), List.getElem?_append_right (by omega), hbefore, hfirst,
      Nat.sub_add_eq]
  · have hnone := breaks_eq_zero.mpr hbreak
    rw [List.getElem?_eq_none (by rw [length_lines, breaks_append, hnone]; omega),
      List.getElem?_eq_none (by rw [length_lines, hnone]; omega)]

/-- **Within a line only that line changes:** what stands there can be replaced by anything else
without a line feed, and all other lines stay. -/
theorem getElem?_lines_replaced {a s t : Text} (hs : '\n' ∉ s) (ht : '\n' ∉ t) (b : Text) {l : ℕ}
    (hl : l ≠ breaks a) : (lines (a ++ s ++ b))[l]? = (lines (a ++ t ++ b))[l]? := by
  rcases Nat.lt_or_gt_of_ne hl with hlt | hgt
  · rw [List.append_assoc, List.append_assoc, getElem?_lines_of_lt hlt, getElem?_lines_of_lt hlt]
  · have hbreaks {x : Text} (hx : '\n' ∉ x) : breaks (a ++ x) = breaks a := by
      rw [breaks_append, breaks_eq_zero.mpr hx, Nat.add_zero]
    rw [getElem?_lines_of_gt (by rwa [hbreaks hs]), getElem?_lines_of_gt (by rwa [hbreaks ht]),
      hbreaks hs, hbreaks ht]

/-- The room that lines take, each with its line break. -/
def room : List Text → Nat
  | [] => 0
  | l :: rest => l.length + 1 + room rest

/-- Lines one after the other take the room of both. -/
lemma room_append (ls ms : List Text) : room (ls ++ ms) = room ls + room ms := by
  induction ls with
  | nil => simp [room]
  | cons l rest ih =>
    simp only [List.cons_append, room, ih]
    omega

/-- A text takes one place less than its lines, for the last one ends without a break. -/
lemma room_lines (s : Text) : room (lines s) = s.length + 1 := by
  induction s with
  | nil => rfl
  | cons c rest ih =>
    by_cases hc : c = '\n'
    · rw [hc, lines_break, ← List.singleton_append, room_append, ih, List.length_cons]
      simp only [room, List.length_nil]
      omega
    · obtain ⟨line, others, hl⟩ := List.exists_cons_of_ne_nil (lines_ne_nil rest)
      rw [hl] at ih
      rw [lines_cons_of_ne hc hl]
      simp only [room, List.length_cons] at ih ⊢
      omega

/-- **Where the line of a place starts:** the lines before it take all the room up to the place
but for what stands on the line before it. -/
theorem room_take_lines (a b : Text) :
    room ((lines (a ++ b)).take (breaks a)) + (lastLine a).length = a.length := by
  obtain ⟨ha, hl⟩ | ⟨p, hp⟩ := eq_lastLine_or a
  · rw [breaks_eq_zero.mpr ha, hl]
    simp [room]
  · have hl : '\n' ∉ lastLine a := break_not_mem_lastLine a
    have hn : breaks a = (lines p).length := by
      rw [hp, breaks_append, breaks_break, breaks_eq_zero.mpr hl, length_lines]
    have ht : (lines (a ++ b)).take (breaks a) = lines p := by
      rw [hn, hp, List.append_assoc, List.cons_append, lines_append_break, List.take_left]
    have hlen := congrArg List.length hp
    rw [List.length_append, List.length_cons] at hlen
    rw [ht, room_lines]
    omega

end Shorthand.Text
