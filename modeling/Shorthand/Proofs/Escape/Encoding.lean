import Shorthand.Proofs.Escape.Token

set_option autoImplicit false
set_option relaxedAutoImplicit false

/-!
# Expansions that can be written

Not every text with every place of the cursor has a written form: what stands behind the last
place of the cursor was read without one in between, so no token can be left in it. That is the
only restriction. Before that place, a place of its own behind each character keeps the characters
of a token from being read together.

## Main definitions

* `Shorthand.Escape.encode` — a written form of a text with the cursor some way before its end.

## Main results

* `Shorthand.Escape.compile_encode` — the written form compiles to the text and the place of the
  cursor.
* `Shorthand.Escape.not_written_infix_insertedText` — what is read without a place has no token.
* `Shorthand.Escape.exists_compile_iff` — the expansions that can be written.
-/

namespace Shorthand.Escape

variable {text s p : Text} {back : ℕ}

/-! ## Writing an expansion -/

/-- A written form of a text with the cursor some way before its end. -/
def encode (text : Text) (back : ℕ) : Text :=
  (text.take (text.length - back)).flatMap (fun c => c :: Token.cursor.written) ++
    (Token.cursor.written ++ text.drop (text.length - back))

/-- Characters with a place of the cursor behind each are read one by one. -/
lemma scan_spaced (u w : Text) :
    scan (u.flatMap (fun c => c :: Token.cursor.written) ++ w) =
      u.flatMap (fun c => [.char c, .cursor]) ++ scan w := by
  induction u with
  | nil => rfl
  | cons c rest ih =>
    -- a token would have its backslash where the percent sign of the place stands
    have hno : ∀ (t : Token) (after : Text),
        ¬t.written <+: c :: (Token.cursor.written ++ after) := by
      intro t after hp
      have htail := (List.cons_prefix_cons.mp hp).2
      exact absurd (List.cons_prefix_cons.mp htail).1 (by decide)
    rw [List.flatMap_cons, List.flatMap_cons, List.append_assoc, List.cons_append,
      scan_cons (hno · _), scan_written, ih]
    rfl

/-- They insert themselves. -/
lemma insertedText_spaced (u : Text) :
    insertedText (u.flatMap fun c => [.char c, .cursor]) = u := by
  induction u with
  | nil => rfl
  | cons c rest ih =>
    rw [List.flatMap_cons, insertedText_append, ih]
    rfl

/-- A text without tokens stands for itself. -/
lemma scan_of_no_token (h : ∀ t : Token, ¬t.written <:+: s) : scan s = s.map .char := by
  induction s with
  | nil => rfl
  | cons c rest ih =>
    have hfront : ∀ t : Token, ¬t.written <+: c :: rest := fun t hp => h t hp.isInfix
    rw [scan_cons hfront, ih fun t hin => h t (List.infix_cons hin), List.map_cons]

/-- Characters insert themselves. -/
lemma insertedText_map_char (s : Text) : insertedText (s.map .char) = s := by
  induction s with
  | nil => rfl
  | cons c rest ih => exact congrArg (c :: ·) ih

/-- **The written form compiles to the text and the place of the cursor,** when there is no token
behind that place. -/
theorem compile_encode (hback : back ≤ text.length)
    (h : ∀ t : Token, ¬t.written <:+: text.drop (text.length - back)) :
    (compile (encode text back)).text = text ∧ (compile (encode text back)).cursorBack = back := by
  set front := text.take (text.length - back) with hfront
  set behind := text.drop (text.length - back) with hbehind
  have hscan : scan (encode text back) =
      front.flatMap (fun c => [.char c, .cursor]) ++ .cursor :: behind.map .char := by
    rw [encode, scan_spaced, scan_written, scan_of_no_token h]
    rfl
  have hnot : .cursor ∉ behind.map Piece.char := by simp
  constructor
  · have htext : insertedText (scan (encode text back)) = front ++ behind := by
      rw [hscan, insertedText_append, insertedText_spaced]
      exact congrArg (front ++ ·) (insertedText_map_char behind)
    exact htext.trans (List.take_append_drop _ text)
  · have hcursor : cursorBack (scan (encode text back)) = back := by
      rw [hscan, cursorBack_append_cursor _ hnot, insertedText_map_char, hbehind, List.length_drop]
      omega
    exact congrArg Int.ofNat hcursor

/-! ## What cannot be written -/

/-- What is inserted starts with characters of a token only when the written text does, if there
is no place of the cursor. -/
lemma prefix_of_prefix_insertedText {t : Token} (hcursor : .cursor ∉ scan s) (ht : p ⊆ t.written)
    (hp : p <+: insertedText (scan s)) : p <+: s := by
  induction s using scan_induction generalizing p with
  | nil => exact hp
  | token u s ih =>
    rw [scan_written] at hp hcursor
    rcases u.piece_cases with rfl | ⟨c, hpiece, hc⟩
    · exact absurd List.mem_cons_self hcursor
    · rw [hpiece] at hp
      cases p with
      | nil => exact List.nil_prefix
      | cons x p =>
        have hx : x = c := (List.cons_prefix_cons.mp hp).1
        exact absurd (hx ▸ ht List.mem_cons_self) (hc t)
  | char c s hno ih =>
    rw [scan_cons hno] at hp hcursor
    cases p with
    | nil => exact List.nil_prefix
    | cons x p =>
      obtain ⟨hx, htail⟩ := List.cons_prefix_cons.mp hp
      have hrest :=
        ih (fun hm => hcursor (List.mem_cons_of_mem _ hm)) (List.subset_of_cons_subset ht) htail
      exact List.cons_prefix_cons.mpr ⟨hx, hrest⟩

/-- **What is read without a place of the cursor has no token in it.**

**Proof sketch.** Induction along the scan. A line break or a tab that was put in is no part of a
token. At a character that stays, a token of the inserted text would have stood in the written
text as well, and the scan would have read it. -/
theorem not_written_infix_insertedText (hcursor : .cursor ∉ scan s) (t : Token) :
    ¬t.written <:+: insertedText (scan s) := by
  induction s using scan_induction with
  | nil => exact fun h => t.written_ne_nil (List.eq_nil_of_infix_nil h)
  | token u s ih =>
    rw [scan_written] at hcursor ⊢
    have hrest := ih fun hm => hcursor (List.mem_cons_of_mem _ hm)
    rcases u.piece_cases with rfl | ⟨c, hpiece, hc⟩
    · exact absurd List.mem_cons_self hcursor
    · intro h
      rw [hpiece] at h
      refine (List.infix_cons_iff.mp h).elim (fun hp => ?_) hrest
      exact hc t ((List.cons_prefix_cons.mp hp).1 ▸ List.mem_cons_self)
  | char c s hno ih =>
    rw [scan_cons hno] at hcursor ⊢
    have hrest : .cursor ∉ scan s := fun hm => hcursor (List.mem_cons_of_mem _ hm)
    intro h
    refine (List.infix_cons_iff.mp h).elim (fun hp => ?_) (ih hrest)
    obtain ⟨hc, htail⟩ := List.cons_prefix_cons.mp hp
    have hwritten : ['\\', t.letter] <+: s :=
      prefix_of_prefix_insertedText hrest (List.subset_cons_self _ _) htail
    exact hno t (List.cons_prefix_cons.mpr ⟨hc, hwritten⟩)

/-- The cursor of a compiled expansion rests in its text, and there is no token behind it. -/
lemma exists_behind_cursor (raw : Text) :
    ∃ behind, behind <:+ (compile raw).text ∧ (compile raw).cursorBack = behind.length ∧
      ∀ t : Token, ¬t.written <:+: behind := by
  by_cases hcursor : Token.cursor.written <:+: raw
  · obtain ⟨n, hn⟩ := Text.exists_lastAt Token.cursor.written_ne_nil hcursor
    obtain ⟨hscan, hnot⟩ := scan_of_lastAt hn
    have hback := cursorBack_compile hn
    set rest := raw.drop (n + Token.cursor.written.length)
    have htext : (compile raw).text = insertedText (scan (raw.take n)) ++ (compile rest).text :=
      (congrArg insertedText hscan).trans (insertedText_append _ _)
    refine ⟨(compile rest).text, ?_, hback, not_written_infix_insertedText hnot⟩
    rw [htext]
    exact List.suffix_append _ _
  · refine ⟨[], List.nil_suffix, cursorBack_compile_of_not_infix hcursor, fun t h => ?_⟩
    exact t.written_ne_nil (List.eq_nil_of_infix_nil h)

/-- **The expansions that can be written** are those with the cursor in their text and no token
behind it. So every text can be written with the cursor at its end.

**Proof sketch.** What stands behind the cursor was read without a place of it, so it has no
token. The other way, such an expansion is written with a place of the cursor behind each
character in front, and what is behind the cursor as it is. -/
theorem exists_compile_iff (text : Text) :
    (∀ back : ℕ, (∃ raw, (compile raw).text = text ∧ (compile raw).cursorBack = back) ↔
      back ≤ text.length ∧ ∀ t : Token, ¬t.written <:+: text.drop (text.length - back)) ∧
    ∃ raw, (compile raw).text = text ∧ (compile raw).cursorBack = 0 := by
  have hall : ∀ back : ℕ, (∃ raw, (compile raw).text = text ∧ (compile raw).cursorBack = back) ↔
      back ≤ text.length ∧ ∀ t : Token, ¬t.written <:+: text.drop (text.length - back) := by
    intro back
    constructor
    · rintro ⟨raw, rfl, hback⟩
      obtain ⟨behind, hsuffix, hlen, hno⟩ := exists_behind_cursor raw
      obtain rfl : back = behind.length := Int.ofNat.inj (hback.symm.trans hlen)
      refine ⟨hsuffix.length_le, ?_⟩
      rwa [← List.suffix_iff_eq_drop.mp hsuffix]
    · rintro ⟨hback, hno⟩
      exact ⟨encode text back, compile_encode hback hno⟩
  refine ⟨hall, (hall 0).mpr ⟨Nat.zero_le _, fun t h => ?_⟩⟩
  rw [Nat.sub_zero, List.drop_length] at h
  exact t.written_ne_nil (List.eq_nil_of_infix_nil h)

end Shorthand.Escape
