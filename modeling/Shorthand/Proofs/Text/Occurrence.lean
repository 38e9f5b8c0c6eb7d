import Mathlib.Data.List.Infix
import Shorthand.Text.Basic

set_option autoImplicit false
set_option relaxedAutoImplicit false

/-!
# Occurrences of a separator

Cutting and splitting are said here without computing: by the place where a separator occurs
first, and by the pieces between its occurrences. A text that is put together again from pieces
splits into these pieces when no occurrence begins before a joint, not even one that reaches
across it.

## Main definitions

* `Shorthand.Text.FirstAt`, `Shorthand.Text.LastAt` — where a separator occurs first, and last.
* `Shorthand.Text.Splits` — the pieces between the occurrences of a separator.
* `Shorthand.Text.EndsPiece` — a separator behind a text ends its last piece.

## Main results

* `Shorthand.Text.cut_eq_some_iff` — a text is cut at the first occurrence.
* `Shorthand.Text.splits_iff` — a text has one list of pieces, and splitting gives it.
* `Shorthand.Text.Splits.not_infix` — the separator occurs in none of them.
* `Shorthand.Text.splitOn_append` — two texts with a separator between them split into the pieces
  of both.
* `Shorthand.Text.splitOn_join` — pieces that were joined are found again.
-/

namespace Shorthand.Text

variable {sep s a b : Text} {c : Char} {n : ℕ} {pieces : List Text}

/-! ## The first occurrence -/

/-- The first occurrence of a separator in a text begins at an offset. -/
structure FirstAt (sep s : Text) (n : ℕ) : Prop where
  occurs : sep <+: s.drop n
  least : ∀ m < n, ¬sep <+: s.drop m

/-- Looking at all earlier places decides whether an occurrence is the first. -/
instance decidableFirstAt (sep s : Text) (n : ℕ) : Decidable (FirstAt sep s n) :=
  decidable_of_iff (sep <+: s.drop n ∧ ∀ m < n, ¬sep <+: s.drop m)
    ⟨fun h => ⟨h.1, h.2⟩, fun h => ⟨h.occurs, h.least⟩⟩

/-- The first occurrence is at the start exactly when the text starts with the separator. -/
lemma firstAt_zero : FirstAt sep s 0 ↔ sep <+: s :=
  ⟨fun h => h.occurs, fun h => ⟨h, fun _ hm => absurd hm (Nat.not_lt_zero _)⟩⟩

/-- Any other is one further than in the text without its first character. -/
lemma firstAt_succ : FirstAt sep (c :: s) (n + 1) ↔ ¬sep <+: c :: s ∧ FirstAt sep s n := by
  constructor
  · intro h
    refine ⟨h.least 0 n.succ_pos, h.occurs, fun m hm => ?_⟩
    exact h.least (m + 1) (Nat.succ_lt_succ hm)
  · rintro ⟨hne, h⟩
    refine ⟨h.occurs, fun m hm => ?_⟩
    cases m with
    | zero => exact hne
    | succ m => exact h.least m (Nat.lt_of_succ_lt_succ hm)

/-- What follows an occurrence of the separator does not make another one come first. -/
lemma FirstAt.append (h : FirstAt sep (a ++ sep) a.length) (b : Text) :
    FirstAt sep (a ++ sep ++ b) a.length := by
  refine ⟨?_, fun m hm hp => h.least m hm ?_⟩
  · rw [List.append_assoc, List.drop_left]
    exact List.prefix_append sep b
  · -- an occurrence before the given one ends before that does
    have hdrop : (a ++ sep).drop m <+: (a ++ sep ++ b).drop m :=
      (List.prefix_append (a ++ sep) b).drop m
    refine List.prefix_of_prefix_length_le hp hdrop ?_
    rw [List.length_drop, List.length_append]
    omega

/-- What comes first with more text behind it comes first without that. -/
lemma FirstAt.of_append (h : FirstAt sep (a ++ sep ++ b) a.length) :
    FirstAt sep (a ++ sep) a.length := by
  refine ⟨?_, fun m hm hp => h.least m hm ?_⟩
  · rw [List.drop_left]
  · exact hp.trans ((List.prefix_append (a ++ sep) b).drop m)

/-- A separator does not occur in what stands before its first occurrence. -/
lemma FirstAt.not_infix (h : FirstAt sep (a ++ b) a.length) (hsep : sep ≠ []) : ¬sep <:+: a := by
  rintro ⟨x, y, rfl⟩
  have hpos := List.length_pos_iff.mpr hsep
  refine h.least x.length (by simp only [List.length_append]; omega) ?_
  rw [List.append_assoc, List.append_assoc, List.drop_left]
  exact List.prefix_append sep _

/-- A character where the separator does not begin goes to what stands before it. -/
lemma cut_cons (hp : ¬sep <+: c :: s) :
    cut sep (c :: s) = (cut sep s).map fun ends => (c :: ends.1, ends.2) := by
  rw [cut, if_neg fun h => hp (List.isPrefixOf_iff_prefix.mp h)]

/-- **A text is cut at the first occurrence** of the separator. -/
theorem cut_eq_some_iff :
    cut sep s = some (a, b) ↔ s = a ++ sep ++ b ∧ FirstAt sep s a.length := by
  induction s generalizing a with
  | nil =>
    constructor
    · intro h
      have hnil := eq_append_of_cut h
      obtain ⟨rfl, rfl, rfl⟩ : a = [] ∧ sep = [] ∧ b = [] := by simpa using hnil.symm
      exact ⟨rfl, firstAt_zero.mpr List.nil_prefix⟩
    · rintro ⟨h, -⟩
      obtain ⟨rfl, rfl, rfl⟩ : a = [] ∧ sep = [] ∧ b = [] := by simpa using h.symm
      rfl
  | cons c rest ih =>
    by_cases hp : sep <+: c :: rest
    · have hcut : cut sep (c :: rest) = some ([], (c :: rest).drop sep.length) := by
        rw [cut, if_pos (List.isPrefixOf_iff_prefix.mpr hp)]
      rw [hcut, Option.some.injEq, Prod.mk.injEq]
      constructor
      · rintro ⟨rfl, rfl⟩
        exact ⟨List.prefix_append_drop hp, firstAt_zero.mpr hp⟩
      · rintro ⟨heq, hfirst⟩
        cases a with
        | nil => exact ⟨rfl, by rw [heq, List.nil_append, List.drop_left]⟩
        | cons d a => exact absurd hp (firstAt_succ.mp hfirst).1
    · rw [cut_cons hp, Option.map_eq_some_iff]
      constructor
      · rintro ⟨⟨x, y⟩, hxy, heq⟩
        obtain ⟨rfl, rfl⟩ := Prod.mk.inj heq
        obtain ⟨hrest, hfirst⟩ := ih.mp hxy
        exact ⟨by rw [hrest]; rfl, firstAt_succ.mpr ⟨hp, hfirst⟩⟩
      · rintro ⟨heq, hfirst⟩
        cases a with
        | nil => exact absurd (firstAt_zero.mp hfirst) hp
        | cons d a =>
          obtain ⟨rfl, hrest⟩ := List.cons.inj heq
          exact ⟨(a, b), ih.mpr ⟨hrest, (firstAt_succ.mp hfirst).2⟩, rfl⟩

/-- A text is not cut exactly when the separator does not occur in it. -/
lemma cut_eq_none_iff : cut sep s = none ↔ ¬sep <:+: s := by
  induction s with
  | nil => simp [cut]
  | cons c rest ih =>
    rw [List.infix_cons_iff, not_or, ← ih, cut]
    split_ifs with hp
    · exact iff_of_false (by simp) fun h => h.1 (List.isPrefixOf_iff_prefix.mp hp)
    · rw [Option.map_eq_none_iff]
      exact ⟨fun h => ⟨fun hpre => hp (List.isPrefixOf_iff_prefix.mpr hpre), h⟩, fun h => h.2⟩

/-! ## The last occurrence -/

/-- What occurs in a list has a last occurrence. -/
lemma exists_last_of_mem {α : Type} {x : α} {xs : List α} (h : x ∈ xs) :
    ∃ before behind, xs = before ++ x :: behind ∧ x ∉ behind := by
  obtain ⟨behind, before, hxs, hnot⟩ := List.eq_append_cons_of_mem (List.mem_reverse.mpr h)
  refine ⟨before.reverse, behind.reverse, ?_, fun hm => hnot (List.mem_reverse.mp hm)⟩
  have hreverse := congrArg List.reverse hxs
  simpa using hreverse

/-- The last occurrence of a separator in a text begins at an offset. -/
structure LastAt (sep s : Text) (n : ℕ) : Prop where
  occurs : sep <+: s.drop n
  greatest : ∀ m, n < m → ¬sep <+: s.drop m

/-- A separator that occurs has a last occurrence. -/
lemma exists_lastAt (hsep : sep ≠ []) (h : sep <:+: s) : ∃ n, LastAt sep s n := by
  induction s with
  | nil => exact absurd (List.eq_nil_of_infix_nil h) hsep
  | cons c rest ih =>
    by_cases hrest : sep <:+: rest
    · obtain ⟨n, hn⟩ := ih hrest
      refine ⟨n + 1, hn.occurs, fun m hm => ?_⟩
      obtain ⟨m, rfl⟩ : ∃ k, m = k + 1 := ⟨m - 1, by omega⟩
      exact hn.greatest m (Nat.lt_of_succ_lt_succ hm)
    · have hp : sep <+: c :: rest := (List.infix_cons_iff.mp h).resolve_right hrest
      refine ⟨0, hp, fun m hm hlater => hrest ?_⟩
      obtain ⟨m, rfl⟩ : ∃ k, m = k + 1 := ⟨m - 1, by omega⟩
      exact hlater.isInfix.trans (List.drop_suffix m rest).isInfix

/-- The last occurrence cuts a text in three. -/
lemma LastAt.eq_append (h : LastAt sep s n) :
    s = s.take n ++ sep ++ s.drop (n + sep.length) := by
  have hdrop := List.prefix_append_drop h.occurs
  rw [List.drop_drop] at hdrop
  rw [List.append_assoc, ← hdrop, List.take_append_drop]

/-- The separator does not occur behind its last occurrence. -/
lemma LastAt.not_infix (h : LastAt sep s n) (hsep : sep ≠ []) :
    ¬sep <:+: s.drop (n + sep.length) := by
  rintro ⟨x, y, hxy⟩
  have hpos := List.length_pos_iff.mpr hsep
  refine h.greatest (n + sep.length + x.length) (by omega) ?_
  rw [← List.drop_drop, ← hxy, List.append_assoc, List.drop_left]
  exact List.prefix_append sep y

/-! ## Splitting -/

/-- The pieces of a text between the occurrences of a separator, leftmost occurrences first and none
overlapping. -/
inductive Splits (sep : Text) : Text → List Text → Prop
  /-- A text where the separator does not occur is one piece. -/
  | whole {s : Text} : ¬sep <:+: s → Splits sep s [s]
  /-- Any other is cut at the first occurrence. -/
  | cut {a b : Text} {pieces : List Text} : FirstAt sep (a ++ sep ++ b) a.length →
      Splits sep b pieces → Splits sep (a ++ sep ++ b) (a :: pieces)

/-- Splitting gives the pieces. -/
lemma splits_splitOn (hsep : sep ≠ []) (s : Text) : Splits sep s (splitOn sep s) := by
  induction hl : s.length using Nat.strongRecOn generalizing s with
  | ind l ih =>
    rw [splitOn_eq hsep]
    cases hc : cut sep s with
    | none => exact .whole (cut_eq_none_iff.mp hc)
    | some p =>
      obtain ⟨before, after⟩ := p
      obtain ⟨rfl, hfirst⟩ := cut_eq_some_iff.mp hc
      have hpos := List.length_pos_iff.mpr hsep
      refine .cut hfirst (ih after.length ?_ after rfl)
      simp only [List.length_append] at hl
      omega

/-- There are no other pieces. -/
lemma Splits.eq_splitOn (hsep : sep ≠ []) (h : Splits sep s pieces) : pieces = splitOn sep s := by
  induction h with
  | whole hno => rw [splitOn_eq hsep, cut_eq_none_iff.mpr hno]
  | cut hfirst _ ih => rw [splitOn_eq hsep, cut_eq_some_iff.mpr ⟨rfl, hfirst⟩, ih]

/-- **A text has one list of pieces,** and splitting gives it. -/
theorem splits_iff (hsep : sep ≠ []) : Splits sep s pieces ↔ pieces = splitOn sep s :=
  ⟨Splits.eq_splitOn hsep, fun h => h ▸ splits_splitOn hsep s⟩

/-- The separator occurs in none of the pieces. -/
lemma Splits.not_infix (hsep : sep ≠ []) (h : Splits sep s pieces) : ∀ p ∈ pieces, ¬sep <:+: p := by
  induction h with
  | whole hno => exact List.forall_mem_singleton.mpr hno
  | cut hfirst _ ih =>
    rw [List.append_assoc] at hfirst
    exact List.forall_mem_cons.mpr ⟨hfirst.not_infix hsep, ih⟩

/-- There is always a piece. -/
lemma Splits.ne_nil (h : Splits sep s pieces) : pieces ≠ [] := by
  cases h <;> exact List.cons_ne_nil _ _

/-! ## Texts one after the other -/

/-- The separator, put behind a text, comes first behind the last of its pieces: none begins in
that piece and ends behind it. -/
def EndsPiece (sep s : Text) : Prop :=
  ∃ pieces last, Splits sep s pieces ∧ pieces.getLast? = some last ∧
    FirstAt sep (last ++ sep) last.length

/-- A separator of one character always does. -/
lemma endsPiece_singleton (c : Char) (s : Text) : EndsPiece [c] s := by
  have hsep : [c] ≠ [] := List.cons_ne_nil c []
  have hsplits := splits_splitOn hsep s
  obtain ⟨last, hlast⟩ := Option.isSome_iff_exists.mp (List.getLast?_isSome.mpr hsplits.ne_nil)
  refine ⟨_, last, hsplits, hlast, ?_, fun m hm hp => ?_⟩
  · rw [List.drop_left]
  · have hno : ¬[c] <:+: last := hsplits.not_infix hsep last (List.mem_of_getLast? hlast)
    rw [List.drop_append_of_le_length (Nat.le_of_lt hm), List.drop_eq_getElem_cons hm] at hp
    obtain ⟨rfl, -⟩ := List.cons_prefix_cons.mp hp
    exact hno ((List.singleton_infix_iff _ _).mpr (List.getElem_mem hm))

/-- **Between two texts the separator separates their pieces** when it ends the last piece of the
first. -/
theorem Splits.append {others : List Text} (ha : Splits sep a pieces) (hb : Splits sep b others)
    (hend : ∀ last, pieces.getLast? = some last → FirstAt sep (last ++ sep) last.length) :
    Splits sep (a ++ sep ++ b) (pieces ++ others) := by
  induction ha with
  | whole hno => exact .cut ((hend _ rfl).append b) hb
  | @cut x y rest hfirst hrest ih =>
    have hassoc : x ++ sep ++ y ++ sep ++ b = x ++ sep ++ (y ++ sep ++ b) := by
      simp only [List.append_assoc]
    rw [hassoc, List.cons_append]
    refine .cut (hfirst.of_append.append _) (ih fun last hlast => hend last ?_)
    rw [List.getLast?_cons_of_ne_nil hrest.ne_nil, hlast]

/-- A text and another one behind a separator split into the pieces of both. -/
theorem splitOn_append (hsep : sep ≠ []) (hend : EndsPiece sep a) (b : Text) :
    splitOn sep (a ++ sep ++ b) = splitOn sep a ++ splitOn sep b := by
  obtain ⟨pieces, last, hsplits, hlast, hfirst⟩ := hend
  have happend := hsplits.append (splits_splitOn hsep b) fun other hother => by
    obtain rfl : last = other := Option.some.inj (hlast.symm.trans hother)
    exact hfirst
  rw [← hsplits.eq_splitOn hsep, ← happend.eq_splitOn hsep]

/-- Pieces that are joined are the pieces of what they make when the separator behind each comes
first there. -/
lemma splits_join (hsep : sep ≠ []) (hne : pieces ≠ [])
    (h : ∀ p ∈ pieces, FirstAt sep (p ++ sep) p.length) : Splits sep (join sep pieces) pieces := by
  induction pieces with
  | nil => exact absurd rfl hne
  | cons p rest ih =>
    have hp := h p List.mem_cons_self
    cases rest with
    | nil =>
      have hjoin : join sep [p] = p := by simp [join]
      rw [hjoin]
      exact .whole (hp.not_infix hsep)
    | cons q others =>
      rw [join_cons_of_ne_nil sep p (List.cons_ne_nil q others)]
      exact .cut (hp.append _)
        (ih (List.cons_ne_nil q others) fun x hx => h x (List.mem_cons_of_mem _ hx))

/-- Some of the pieces of a text, joined, are the pieces of what they make: each but the last was
followed by the separator before. -/
lemma Splits.filter (hsep : sep ≠ []) (h : Splits sep s pieces) (keep : Text → Bool)
    (hne : pieces.filter keep ≠ []) :
    Splits sep (join sep (pieces.filter keep)) (pieces.filter keep) := by
  induction h with
  | @whole s hno =>
    have hkeep : [s].filter keep = [s] := by
      by_cases hs : keep s
      · simp [hs]
      · simp [hs] at hne
    have hjoin : join sep [s] = s := by simp [join]
    rw [hkeep, hjoin]
    exact .whole hno
  | @cut a b pieces hfirst _ ih =>
    by_cases ha : keep a
    · rw [List.filter_cons_of_pos ha]
      by_cases hrest : pieces.filter keep = []
      · have hjoin : join sep [a] = a := by simp [join]
        rw [hrest, hjoin]
        exact .whole (hfirst.of_append.not_infix hsep)
      · rw [join_cons_of_ne_nil sep a hrest]
        exact .cut (hfirst.of_append.append _) (ih hrest)
    · rw [List.filter_cons_of_neg ha] at hne ⊢
      exact ih hne

/-- **Pieces that were joined are found again** when no occurrence of the separator begins before a
joint. -/
theorem splitOn_join (hsep : sep ≠ []) (hne : pieces ≠ [])
    (h : ∀ p ∈ pieces, FirstAt sep (p ++ sep) p.length) : splitOn sep (join sep pieces) = pieces :=
  ((splits_iff hsep).mp (splits_join hsep hne h)).symm

end Shorthand.Text
