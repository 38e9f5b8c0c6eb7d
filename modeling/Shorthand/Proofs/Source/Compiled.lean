import Mathlib.Data.List.TakeWhile
import Shorthand.Proofs.Document.Edit
import Shorthand.Proofs.Escape.Token
import Shorthand.Source

set_option autoImplicit false
set_option relaxedAutoImplicit false

/-!
# Tables of compiled expansions

Whatever a source says, the expansions in the table that is read from it are compiled ones, so the
cursor of each rests in its own text.

## Main definitions

* `Shorthand.Entries.Compiled` — all expansions of a table are compiled.

## Main results

* `Shorthand.Escape.placed_compile` — the cursor of a compiled expansion rests in its text.
* `Shorthand.Source.compiled_parse` — a source gives compiled expansions.
-/

namespace Shorthand

/-! ## The cursor of a compiled expansion -/

namespace Escape

/-- The text after the last place for the cursor is part of the inserted text. -/
lemma cursorBack_le (pieces : List Piece) : cursorBack pieces ≤ (insertedText pieces).length := by
  unfold cursorBack
  split_ifs
  · -- the pieces behind the last place are characters, and insert a part of what all of them insert
    have hno : .cursor ∉ pieces.reverse.takeWhile (· != .cursor) := by
      intro hm
      have := List.mem_takeWhile_imp hm
      simp at this
    have hsub := (List.takeWhile_sublist (· != .cursor) (l := pieces.reverse)).filterMap Piece.char?
    have hlen := hsub.length_le
    rw [List.filterMap_reverse, List.length_reverse] at hlen
    rw [← length_insertedText hno]
    exact hlen
  · exact Nat.zero_le _

/-- **The cursor of a compiled expansion rests in its text.** -/
theorem placed_compile (raw : Text) : (compile raw).Placed :=
  ⟨Int.natCast_nonneg _, Int.ofNat_le.mpr (cursorBack_le (scan raw))⟩

end Escape

/-! ## What a source gives -/

/-- All expansions of a table are compiled. -/
def Entries.Compiled (es : Entries Expansion) : Prop :=
  ∀ e ∈ es, ∃ raw, e.2 = Escape.compile raw

/-- One more compiled expansion leaves all of them compiled. -/
lemma Entries.Compiled.insert {es : Entries Expansion} (h : Entries.Compiled es) (key raw : Text) :
    Entries.Compiled (Entries.insert es key (Escape.compile raw)) := by
  intro e he
  rcases Entries.eq_or_mem_of_mem_insert he with rfl | he
  · exact ⟨raw, rfl⟩
  · exact h e he

/-- The expansion of a compiled table rests its cursor in its text. -/
lemma Entries.Compiled.placed {es : Entries Expansion} (h : Entries.Compiled es)
    {e : Text × Expansion} (he : e ∈ es) : e.2.Placed := by
  obtain ⟨raw, hraw⟩ := h e he
  rw [hraw]
  exact Escape.placed_compile raw

namespace Source

/-- What holds of a reading and of the records that are still to come, and is kept by every record
that the reading takes in, holds of the reading of all of them. -/
theorem gather_induction {parts : Divider} {P : List (Nat × Text) → Reading → Prop}
    (hadd : ∀ index record rest r o, P ((index, record) :: rest) r →
      outcome parts record = .ok o → P rest (r.add index record o)) :
    ∀ (records : List (Nat × Text)) {r r' : Reading}, P records r →
      gather parts r records = .ok r' → P [] r'
  | [], r, r', hr, h => by
    rw [gather, Except.ok.injEq] at h
    exact h ▸ hr
  | (index, record) :: rest, r, r', hr, h => by
    rw [gather] at h
    cases ho : outcome parts record with
    | error f =>
      rw [ho] at h
      exact nomatch h
    | ok o =>
      rw [ho] at h
      exact gather_induction hadd rest (hadd index record rest r o hr ho) h

/-- **A source gives compiled expansions.** -/
theorem compiled_parse {between parts : Divider} {source : Text} {r : Reading}
    (h : parse between parts source = .ok r) : Entries.Compiled r.snippets := by
  unfold parse at h
  cases hs : between.betweenRecords.split source with
  | error f =>
    rw [hs] at h
    exact nomatch h
  | ok pieces =>
    rw [hs] at h
    refine gather_induction (P := fun _ r => Entries.Compiled r.snippets) ?_ _
      (by simp [Entries.Compiled]) h
    intro index record rest r o hr _
    cases o with
    | rejected reason => exact hr
    | defines trigger raw => exact hr.insert trigger raw

end Source

end Shorthand
