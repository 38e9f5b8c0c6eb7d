import Shorthand.Escape
import Shorthand.Proofs.Text.Occurrence

set_option autoImplicit false
set_option relaxedAutoImplicit false

/-!
# Tokens of written expansions

The three escapes differ in their letter only, and none has a percent sign behind its first
character. So no two tokens overlap, a token is read wherever it stands, and what stands before it
is read as if it stood alone.

## Main definitions

* `Shorthand.Escape.Token` — the escapes, each with its written form and the piece that it stands
  for.
* `Shorthand.Escape.NoTokenAcross` — no token reaches from the end of one text into another.

## Main results

* `Shorthand.Escape.scan_written`, `Shorthand.Escape.scan_cons` — one step of the scan.
* `Shorthand.Escape.scan_induction` — induction along the scan.
* `Shorthand.Escape.scan_append` — texts without a token across them are read one after the other.
* `Shorthand.Escape.cursor_mem_scan_iff` — the cursor has a place exactly when its token occurs.
* `Shorthand.Escape.cursorBack_append_cursor` — the last place of the cursor counts.
* `Shorthand.Escape.cursorBack_compile` — the cursor rests before what the text behind its last
  token makes.
-/

namespace Shorthand.Escape

/-- The three escapes. -/
inductive Token where
  | lineBreak
  | tab
  | cursor
  deriving DecidableEq, Repr

namespace Token

/-- The letter of an escape. -/
def letter : Token → Char
  | lineBreak => 'n'
  | tab => 't'
  | cursor => 'e'

/-- An escape as it is written: a percent sign, a backslash and its letter. -/
def written (t : Token) : Text := ['%', '\\', t.letter]

/-- What an escape stands for. -/
def piece : Token → Piece
  | lineBreak => .char '\n'
  | tab => .char '\t'
  | cursor => .cursor

/-- What an escape inserts, if anything, is no part of a written escape. -/
lemma piece_cases (t : Token) :
    t = cursor ∨ ∃ c, t.piece = .char c ∧ ∀ u : Token, c ∉ u.written := by
  cases t with
  | lineBreak => exact .inr ⟨'\n', rfl, fun u => by cases u <;> decide⟩
  | tab => exact .inr ⟨'\t', rfl, fun u => by cases u <;> decide⟩
  | cursor => exact .inl rfl

/-- A written escape is not empty. -/
lemma written_ne_nil (t : Token) : t.written ≠ [] := List.cons_ne_nil _ _

/-- Different escapes have different letters. -/
lemma letter_injective {t u : Token} (h : t.letter = u.letter) : t = u := by
  cases t <;> cases u <;> first | rfl | exact absurd h (by decide)

/-- No end of a written escape, short of all of it, starts with a percent sign. -/
lemma not_percent_of_append {t : Token} {x y : Text} (h : t.written = x ++ y) (hx : x ≠ []) :
    y.head? ≠ some '%' := by
  obtain ⟨c, x, rfl⟩ := List.exists_cons_of_ne_nil hx
  rw [written, List.cons_append, List.cons.injEq] at h
  intro hy
  obtain ⟨rest, rfl⟩ := List.head?_eq_some_iff.mp hy
  have hmem : '%' ∈ ['\\', t.letter] := by
    rw [h.2]
    exact List.mem_append_right x List.mem_cons_self
  revert hmem
  cases t <;> decide

end Token

variable {a b s : Text} {c : Char}

/-! ## The scan, step by step -/

/-- **A token at the front is read** for what it stands for. -/
theorem scan_written (t : Token) (s : Text) : scan (t.written ++ s) = t.piece :: scan s := by
  cases t <;> rfl

/-- **A character that begins no token stands for itself.** -/
theorem scan_cons (h : ∀ t : Token, ¬t.written <+: c :: s) :
    scan (c :: s) = .char c :: scan s := by
  refine scan.eq_4 c s ?_ ?_ ?_
  · rintro rest rfl rfl
    exact h .lineBreak (List.prefix_append _ rest)
  · rintro rest rfl rfl
    exact h .tab (List.prefix_append _ rest)
  · rintro rest rfl rfl
    exact h .cursor (List.prefix_append _ rest)

/-- **Induction along the scan:** a text is empty, or starts with a token, or with a character that
begins none. -/
theorem scan_induction {P : Text → Prop} (nil : P [])
    (token : ∀ (t : Token) (s : Text), P s → P (t.written ++ s))
    (char : ∀ (c : Char) (s : Text), (∀ t : Token, ¬t.written <+: c :: s) → P s → P (c :: s))
    (s : Text) : P s := by
  refine scan.induct P (token .lineBreak) (token .tab) (token .cursor) ?_ nil s
  intro c rest hbreak htab hcursor ih
  refine char c rest ?_ ih
  rintro t ⟨after, hafter⟩
  obtain ⟨hc, hrest⟩ := List.cons.inj hafter
  cases t with
  | lineBreak => exact hbreak after hc.symm hrest.symm
  | tab => exact htab after hc.symm hrest.symm
  | cursor => exact hcursor after hc.symm hrest.symm

/-! ## Texts side by side -/

/-- No token begins in one text and ends in the one behind it. -/
def NoTokenAcross (a b : Text) : Prop :=
  ∀ (t : Token) (x y : Text), t.written = x ++ y → x ≠ [] → y ≠ [] → x <:+ a → ¬y <+: b

/-- No token reaches into a text that starts with a percent sign. -/
lemma noTokenAcross_percent (a b : Text) : NoTokenAcross a ('%' :: b) := by
  intro t x y heq hx hy _ hp
  obtain ⟨c, y, rfl⟩ := List.exists_cons_of_ne_nil hy
  obtain ⟨rfl, -⟩ := List.cons_prefix_cons.mp hp
  exact Token.not_percent_of_append heq hx rfl

/-- **Texts without a token across them are read one after the other.**

**Proof sketch.** Induction along the scan of the first text. Where a character of it begins no
token, none begins there when the second text follows either: it would end in the second one. -/
theorem scan_append (h : NoTokenAcross a b) : scan (a ++ b) = scan a ++ scan b := by
  induction a using scan_induction with
  | nil => rfl
  | token t s ih =>
    have hs : NoTokenAcross s b := fun u x y heq hx hy hsuffix =>
      h u x y heq hx hy (hsuffix.trans (List.suffix_append _ s))
    rw [List.append_assoc, scan_written, scan_written, ih hs, List.cons_append]
  | char c s hno ih =>
    have hs : NoTokenAcross s b := fun u x y heq hx hy hsuffix =>
      h u x y heq hx hy (hsuffix.trans (List.suffix_cons c s))
    have hnob : ∀ t : Token, ¬t.written <+: c :: (s ++ b) := by
      intro t hp
      rcases List.prefix_or_prefix_of_prefix hp (List.prefix_append (c :: s) b) with hin | ⟨y, hy⟩
      · exact hno t hin
      · rw [← hy] at hp
        have hyb : y <+: b := (List.prefix_append_right_inj (c :: s)).mp hp
        have hyne : y ≠ [] := by
          rintro rfl
          exact hno t ⟨[], by rw [← hy, List.append_nil, List.append_nil]⟩
        exact h t (c :: s) y hy.symm (List.cons_ne_nil c s) hyne (List.suffix_refl _) hyb
    rw [List.cons_append, scan_cons hnob, scan_cons hno, ih hs, List.cons_append]

/-- A token is read wherever it stands. -/
lemma scan_append_written (a : Text) (t : Token) (b : Text) :
    scan (a ++ t.written ++ b) = scan a ++ t.piece :: scan b := by
  rw [List.append_assoc, ← scan_written]
  exact scan_append (noTokenAcross_percent a _)

/-- **The cursor has a place exactly when its token occurs.** -/
theorem cursor_mem_scan_iff : .cursor ∈ scan s ↔ Token.cursor.written <:+: s := by
  constructor
  · induction s using scan_induction with
    | nil => exact fun h => absurd h List.not_mem_nil
    | token t s ih =>
      intro h
      rw [scan_written] at h
      rcases List.mem_cons.mp h with ht | hs
      · have hcursor : t = .cursor := by cases t <;> first | rfl | exact nomatch ht
        rw [hcursor]
        exact (List.prefix_append _ s).isInfix
      · exact (ih hs).trans (List.suffix_append _ s).isInfix
    | char c s hno ih =>
      intro h
      rw [scan_cons hno] at h
      rcases List.mem_cons.mp h with hc | hs
      · exact nomatch hc
      · exact List.infix_cons (ih hs)
  · rintro ⟨a, b, rfl⟩
    rw [scan_append_written]
    exact List.mem_append_right _ List.mem_cons_self

/-! ## What pieces insert, and where the cursor rests -/

/-- Pieces side by side insert their texts side by side. -/
lemma insertedText_append (ps qs : List Piece) :
    insertedText (ps ++ qs) = insertedText ps ++ insertedText qs := List.filterMap_append

/-- Pieces that are all characters insert one each. -/
lemma length_insertedText {pieces : List Piece} (h : .cursor ∉ pieces) :
    (insertedText pieces).length = pieces.length := by
  induction pieces with
  | nil => rfl
  | cons p rest ih =>
    have hrest := ih fun hm => h (List.mem_cons_of_mem _ hm)
    cases p with
    | char c =>
      have hcons : insertedText (.char c :: rest) = c :: insertedText rest := rfl
      rw [hcons, List.length_cons, List.length_cons, hrest]
    | cursor => exact absurd List.mem_cons_self h

/-- Without a place the cursor rests at the end. -/
lemma cursorBack_of_not_mem {ps : List Piece} (h : .cursor ∉ ps) : cursorBack ps = 0 := by
  rw [cursorBack, if_neg]
  rwa [List.contains_iff_mem]

/-- **The last place of the cursor counts:** the cursor rests before what is inserted behind it. -/
theorem cursorBack_append_cursor (ps : List Piece) {qs : List Piece} (h : .cursor ∉ qs) :
    cursorBack (ps ++ .cursor :: qs) = (insertedText qs).length := by
  have hmem : (ps ++ Piece.cursor :: qs).contains .cursor = true :=
    List.contains_iff_mem.mpr (List.mem_append_right _ List.mem_cons_self)
  have hchars : ∀ p ∈ qs.reverse, (p != Piece.cursor) = true := by
    intro p hp
    have hne : p ≠ .cursor := fun e => h (by rwa [← e, ← List.mem_reverse])
    simpa using hne
  rw [cursorBack, if_pos hmem, length_insertedText h, List.reverse_append, List.reverse_cons,
    List.append_assoc, List.takeWhile_append_of_pos hchars]
  simp

/-! ## The cursor of a compiled expansion -/

/-- The last token of the cursor gives its last place. -/
lemma scan_of_lastAt {n : ℕ} (h : Text.LastAt Token.cursor.written s n) :
    scan s = scan (s.take n) ++ .cursor :: scan (s.drop (n + Token.cursor.written.length)) ∧
      .cursor ∉ scan (s.drop (n + Token.cursor.written.length)) := by
  constructor
  · conv_lhs => rw [h.eq_append]
    exact scan_append_written _ _ _
  · exact fun hm => h.not_infix Token.cursor.written_ne_nil (cursor_mem_scan_iff.mp hm)

/-- Without a token of the cursor it rests at the end. -/
lemma cursorBack_compile_of_not_infix (h : ¬Token.cursor.written <:+: s) :
    (compile s).cursorBack = 0 := by
  have hnot : .cursor ∉ scan s := fun hm => h (cursor_mem_scan_iff.mp hm)
  exact congrArg Int.ofNat (cursorBack_of_not_mem hnot)

/-- **The cursor rests before what the text behind its last token makes.** -/
theorem cursorBack_compile {n : ℕ} (h : Text.LastAt Token.cursor.written s n) :
    (compile s).cursorBack =
      ((compile (s.drop (n + Token.cursor.written.length))).text.length : ℤ) := by
  obtain ⟨hscan, hnot⟩ := scan_of_lastAt h
  have hback : cursorBack (scan s) =
      (insertedText (scan (s.drop (n + Token.cursor.written.length)))).length := by
    rw [hscan, cursorBack_append_cursor _ hnot]
  exact congrArg Int.ofNat hback

end Shorthand.Escape
