import Mathlib.Data.List.TakeWhile
import Shorthand.Text.Blank

set_option autoImplicit false
set_option relaxedAutoImplicit false

/-!
# Trimming

A trimmed text is what is left between padding of a class of characters when it neither starts nor
ends with one of them. This says what trimming gives without computing it, and trimming is read
off from how a text was put together.

## Main definitions

* `Shorthand.Text.Bare` — neither end of a text is of a class.

## Main results

* `Shorthand.Text.trimBoth_eq_iff` — trimming takes the padding off, and nothing else.
-/

namespace Shorthand.Text

variable {p : Char → Bool} {s t before after : Text}

/-- Neither end of a text is of a class. -/
structure Bare (p : Char → Bool) (s : Text) : Prop where
  head : ∀ c ∈ s.head?, ¬p c
  last : ∀ c ∈ s.getLast?, ¬p c

/-- The first and the last character decide whether a text is bare. -/
instance decidableBare (p : Char → Bool) (s : Text) : Decidable (Bare p s) :=
  decidable_of_iff (s.head?.all (!p ·) ∧ s.getLast?.all (!p ·)) <| by
    simp only [Option.all_eq_true, Bool.not_eq_true']
    exact ⟨fun h => ⟨fun c hc => by simp [h.1 c hc], fun c hc => by simp [h.2 c hc]⟩,
      fun h => ⟨fun c hc => by simpa using h.head c hc, fun c hc => by simpa using h.last c hc⟩⟩

/-- A text that does not start with the class keeps its start. -/
lemma dropWhile_of_head (h : ∀ c ∈ s.head?, ¬p c) (rest : Text) (hs : s ≠ []) :
    (s ++ rest).dropWhile p = s ++ rest := by
  obtain ⟨c, s, rfl⟩ := List.exists_cons_of_ne_nil hs
  exact List.dropWhile_cons_of_neg (h c rfl)

/-- What is left when the class is dropped does not start with it. -/
lemma not_of_mem_head?_dropWhile {c : Char} (h : c ∈ (s.dropWhile p).head?) : ¬p c := by
  have hhead := List.head?_dropWhile_not p s
  rw [Option.mem_def.mp h] at hhead
  exact Bool.eq_false_iff.mp hhead

/-- Padding is taken off a text that has bare ends. -/
lemma Bare.trimBoth_padded (h : Bare p t) (hbefore : ∀ c ∈ before, p c)
    (hafter : ∀ c ∈ after, p c) :
    trimBoth p (before ++ t ++ after) = t := by
  have hreverse : ∀ c ∈ after.reverse, p c := fun c hc => hafter c (List.mem_reverse.mp hc)
  rw [trimBoth, List.append_assoc, List.dropWhile_append_of_pos hbefore]
  by_cases ht : t = []
  · rw [ht, List.nil_append, List.dropWhile_eq_nil_iff.mpr hafter]
    rfl
  · have hlast : ∀ c ∈ t.reverse.head?, ¬p c := by
      rw [List.head?_reverse]
      exact h.last
    rw [dropWhile_of_head h.head after ht, List.reverse_append,
      List.dropWhile_append_of_pos hreverse]
    have hkept := dropWhile_of_head hlast [] (by simpa using ht)
    rw [List.append_nil] at hkept
    rw [hkept, List.reverse_reverse]

/-- Without its start, a text is what trimming leaves and the padding behind it. -/
lemma dropWhile_eq_append (p : Char → Bool) (s : Text) :
    s.dropWhile p = trimBoth p s ++ ((s.dropWhile p).reverse.takeWhile p).reverse := by
  rw [trimBoth, ← List.reverse_append, List.takeWhile_append_dropWhile, List.reverse_reverse]

/-- Trimming takes padding off. -/
lemma exists_padding (p : Char → Bool) (s : Text) :
    ∃ before after, s = before ++ trimBoth p s ++ after ∧ (∀ c ∈ before, p c) ∧
      ∀ c ∈ after, p c := by
  refine ⟨s.takeWhile p, ((s.dropWhile p).reverse.takeWhile p).reverse, ?_, ?_, ?_⟩
  · rw [List.append_assoc, ← dropWhile_eq_append, List.takeWhile_append_dropWhile]
  · exact fun c hc => List.mem_takeWhile_imp hc
  · exact fun c hc => List.mem_takeWhile_imp (List.mem_reverse.mp hc)

/-- It leaves bare ends. -/
lemma bare_trimBoth (p : Char → Bool) (s : Text) : Bare p (trimBoth p s) := by
  constructor
  · intro c hc
    refine not_of_mem_head?_dropWhile (s := s) ?_
    rw [dropWhile_eq_append, List.head?_append, Option.mem_def.mp hc]
    rfl
  · intro c hc
    rw [trimBoth, List.getLast?_reverse] at hc
    exact not_of_mem_head?_dropWhile hc

/-- **Trimming takes the padding off,** and nothing else. -/
theorem trimBoth_eq_iff :
    trimBoth p s = t ↔
      Bare p t ∧ ∃ before after, s = before ++ t ++ after ∧ (∀ c ∈ before, p c) ∧
      ∀ c ∈ after, p c := by
  constructor
  · rintro rfl
    exact ⟨bare_trimBoth p s, exists_padding p s⟩
  · rintro ⟨hbare, before, after, rfl, hbefore, hafter⟩
    exact hbare.trimBoth_padded hbefore hafter

end Shorthand.Text
