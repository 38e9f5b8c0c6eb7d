import Shorthand.Proofs.Text.Occurrence

set_option autoImplicit false
set_option relaxedAutoImplicit false

/-!
# Replacing, character by character

Replacing is defined by splitting and joining. Here it is followed along the text: an occurrence
at the front is replaced, and any other character stays. A replacement by one character makes no
new occurrence of a text in which that character does not occur.

## Main results

* `Shorthand.Text.replaceAll_append` — an occurrence at the front is replaced.
* `Shorthand.Text.replaceAll_cons` — a character where no occurrence begins stays.
* `Shorthand.Text.prefix_of_prefix_replaceAll` — what the result starts with was there before.
-/

namespace Shorthand.Text

variable {old new s p : Text} {c : Char}

/-- **An occurrence at the front is replaced,** and what follows is taken for itself. -/
theorem replaceAll_append (hold : old ≠ []) (new s : Text) :
    replaceAll old new (old ++ s) = new ++ replaceAll old new s := by
  obtain ⟨d, rest, rfl⟩ := List.exists_cons_of_ne_nil hold
  have hcut : cut (d :: rest) (d :: rest ++ s) = some ([], s) := by
    have hp : (d :: rest).isPrefixOf (d :: rest ++ s) = true :=
      List.isPrefixOf_iff_prefix.mpr (List.prefix_append _ _)
    rw [List.cons_append, cut, ← List.cons_append, if_pos hp, List.drop_left]
  have hpieces : splitOn (d :: rest) s ≠ [] := pieces_ne_nil _ _ s
  simp only [replaceAll]
  rw [splitOn_eq hold, hcut]
  exact join_cons_of_ne_nil new [] hpieces

/-- **A character where no occurrence begins stays.** -/
theorem replaceAll_cons (hold : old ≠ []) (hp : ¬old <+: c :: s) (new : Text) :
    replaceAll old new (c :: s) = c :: replaceAll old new s := by
  simp only [replaceAll]
  rw [splitOn_eq hold, splitOn_eq hold s, cut_cons hp]
  cases cut old s with
  | none => simp [join]
  | some ends =>
    obtain ⟨before, after⟩ := ends
    have hpieces : splitOn old after ≠ [] := pieces_ne_nil _ _ after
    simp only [Option.map_some]
    rw [join_cons_of_ne_nil new (c :: before) hpieces, join_cons_of_ne_nil new before hpieces]
    rfl

/-- **What the result starts with was there before,** unless the new character occurs in it.

**Proof sketch.** Induction on the text. An occurrence at the front leaves the new character
there, with which nothing but the empty text is to start; any other character stays, and the rest
starts with the rest. -/
theorem prefix_of_prefix_replaceAll (hold : old ≠ []) (hc : c ∉ p)
    (h : p <+: replaceAll old [c] s) : p <+: s := by
  induction s generalizing p with
  | nil => exact h
  | cons d rest ih =>
    cases p with
    | nil => exact List.nil_prefix
    | cons x p =>
      obtain ⟨hx, hcp⟩ := not_or.mp fun hm => hc (List.mem_cons.mpr hm)
      by_cases hs : old <+: d :: rest
      · obtain ⟨after, hafter⟩ := hs
        rw [← hafter, replaceAll_append hold, List.singleton_append, List.cons_prefix_cons] at h
        exact absurd h.1.symm hx
      · rw [replaceAll_cons hold hs, List.cons_prefix_cons] at h
        exact List.cons_prefix_cons.mpr ⟨h.1, ih hcp h.2⟩

end Shorthand.Text
