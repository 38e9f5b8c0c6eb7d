set_option autoImplicit false
set_option relaxedAutoImplicit false

/-!
# Texts

A text is the list of its code points, so that every offset, length and column counts code points.
This file holds the operations on texts that know nothing about particular characters: cutting at
a separator, splitting, replacing and joining.

## Main definitions

* `Shorthand.Text.cut` — what stands before and after the first occurrence of a separator.
* `Shorthand.Text.splitOn` — the pieces between the occurrences of a separator.
* `Shorthand.Text.replaceAll` — every occurrence of one text replaced by another.

## Main results

* `Shorthand.Text.eq_append_of_cut` — a cut loses nothing but the separator.
* `Shorthand.Text.splitOn_eq` — a text splits as its first cut says.
* `Shorthand.Text.join_splitOn` — the pieces joined by the separator are the text again.
-/

namespace Shorthand

/-- A text is the list of its code points. -/
abbrev Text := List Char

namespace Text

/-! ## Cutting and splitting -/

/-- What stands before and after the first occurrence of `sep`. -/
def cut (sep : Text) : Text → Option (Text × Text)
  | [] => if sep.isEmpty then some ([], []) else none
  | c :: rest =>
    if sep.isPrefixOf (c :: rest) then some ([], (c :: rest).drop sep.length)
    else (cut sep rest).map fun (before, after) => (c :: before, after)

/-- **A cut loses nothing but the separator.** -/
theorem eq_append_of_cut {sep s a b : Text} (h : cut sep s = some (a, b)) : s = a ++ sep ++ b := by
  induction s generalizing a b with
  | nil =>
    simp only [cut, List.isEmpty_iff] at h
    split at h <;> simp_all
  | cons c rest ih =>
    simp only [cut] at h
    split at h
    case isTrue hp =>
      obtain ⟨t, ht⟩ := List.isPrefixOf_iff_prefix.mp hp
      simp only [Option.some.injEq, Prod.mk.injEq] at h
      obtain ⟨rfl, rfl⟩ := h
      simp [← ht]
    case isFalse =>
      obtain ⟨⟨x, y⟩, hxy, he⟩ := Option.map_eq_some_iff.mp h
      simp only [Prod.mk.injEq] at he
      obtain ⟨rfl, rfl⟩ := he
      simp [ih hxy]

/-- Up to `n` cuts, from the left. -/
def pieces (sep : Text) : Nat → Text → List Text
  | 0, s => [s]
  | n + 1, s =>
    match cut sep s with
    | none => [s]
    | some (before, after) => before :: pieces sep n after

/-- The pieces between the occurrences of a nonempty separator: leftmost occurrences first, none
overlapping. A text has no more occurrences than code points. -/
def splitOn (sep s : Text) : List Text := pieces sep s.length s

/-- More cuts than code points change nothing. -/
theorem pieces_eq_splitOn {sep : Text} (hsep : sep ≠ []) (n : Nat) (s : Text)
    (hn : s.length ≤ n) : pieces sep n s = splitOn sep s := by
  induction n using Nat.strongRecOn generalizing s with
  | ind n ih =>
    have hpos : 0 < sep.length := List.length_pos_iff.mpr hsep
    cases n with
    | zero => simp [splitOn, List.eq_nil_of_length_eq_zero (Nat.le_zero.mp hn)]
    | succ n =>
      cases hc : cut sep s with
      | none => cases hs : s.length <;> simp [splitOn, pieces, hs, hc]
      | some p =>
        obtain ⟨a, b⟩ := p
        have hl := congrArg List.length (eq_append_of_cut hc)
        simp only [List.length_append] at hl
        obtain ⟨m, hm⟩ : ∃ m, s.length = m + 1 := ⟨s.length - 1, by omega⟩
        simp only [splitOn, pieces, hc, hm]
        rw [ih n (Nat.lt_succ_self n) b (by omega), ih m (by omega) b (by omega)]

/-- **A text splits as its first cut says.** -/
theorem splitOn_eq {sep : Text} (hsep : sep ≠ []) (s : Text) :
    splitOn sep s = match cut sep s with
      | none => [s]
      | some (before, after) => before :: splitOn sep after := by
  rw [← pieces_eq_splitOn hsep (s.length + 1) s (Nat.le_succ _)]
  cases hc : cut sep s with
  | none => simp [pieces, hc]
  | some p =>
    obtain ⟨a, b⟩ := p
    have hl := congrArg List.length (eq_append_of_cut hc)
    simp only [List.length_append] at hl
    simp only [pieces, hc]
    rw [pieces_eq_splitOn hsep s.length b (by omega)]

/-- The pieces joined by a separator. -/
def join (sep : Text) (parts : List Text) : Text := (parts.intersperse sep).flatten

/-- There is always a piece. -/
theorem pieces_ne_nil (sep : Text) (n : Nat) (s : Text) : pieces sep n s ≠ [] := by
  cases n with
  | zero => simp [pieces]
  | succ n => cases hc : cut sep s <;> simp [pieces, hc]

/-- The first piece is followed by the separator and the join of the others. -/
theorem join_cons_of_ne_nil (sep p : Text) {ps : List Text} (hps : ps ≠ []) :
    join sep (p :: ps) = p ++ sep ++ join sep ps := by
  obtain ⟨q, qs, rfl⟩ := List.exists_cons_of_ne_nil hps
  simp [join, List.intersperse]

/-- Joining takes back any number of cuts. -/
theorem join_pieces (sep : Text) (n : Nat) (s : Text) : join sep (pieces sep n s) = s := by
  induction n generalizing s with
  | zero => simp [pieces, join]
  | succ n ih =>
    cases hc : cut sep s with
    | none => simp [pieces, hc, join]
    | some p =>
      obtain ⟨a, b⟩ := p
      simp only [pieces, hc]
      rw [join_cons_of_ne_nil sep a (pieces_ne_nil sep n b), ih, eq_append_of_cut hc]

/-- **The pieces joined by the separator are the text again.** -/
theorem join_splitOn (sep s : Text) : join sep (splitOn sep s) = s := join_pieces sep s.length s

/-- Every occurrence of `old`, leftmost first and none overlapping, replaced by `new`. -/
def replaceAll (old new s : Text) : Text := join new (splitOn old s)

/-! ## Ends of a text -/

/-- A text without the code points of a class at either end. -/
def trimBoth (p : Char → Bool) (s : Text) : Text :=
  ((s.dropWhile p).reverse.dropWhile p).reverse

/-- The text padded with spaces on the right to at least `width` code points. -/
def padRight (width : Nat) (s : Text) : Text := s ++ List.replicate (width - s.length) ' '

/-- The text padded on the left with `c` to at least `width` code points. -/
def padLeft (width : Nat) (c : Char) (s : Text) : Text := List.replicate (width - s.length) c ++ s

/-! ## Numbers as texts -/

/-- The decimal digits of a number. -/
def ofNat (n : Nat) : Text := Nat.toDigits 10 n

/-- The decimal text of an integer, with a minus sign when it is negative. -/
def ofInt : Int → Text
  | .ofNat n => ofNat n
  | .negSucc n => '-' :: ofNat (n + 1)

/-- The lowercase hexadecimal digits of a number, at least `width` of them. -/
def hex (width n : Nat) : Text := padLeft width '0' (Nat.toDigits 16 n)

end Text

end Shorthand
