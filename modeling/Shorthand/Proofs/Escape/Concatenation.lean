import Shorthand.Proofs.Escape.Encoding

set_option autoImplicit false
set_option relaxedAutoImplicit false

/-!
# Expansions in two parts

A written expansion may be cut in two where no token lies across the cut, and nowhere else: then
it inserts what both parts insert. The cursor rests where it does in the second part if there is a
place for it. If there is one in the first part only, the text of the second part lies between it
and the end. So the last place counts, and those before it leave no trace.

## Main definitions

* `Shorthand.Escape.decidableNoTokenAcross` — whether a token lies across a cut can be decided.

## Main results

* `Shorthand.Escape.cursorBack_append` — where the cursor rests in pieces side by side.
* `Shorthand.Escape.text_compile_append_iff` — where a written expansion can be cut.
* `Shorthand.Escape.compile_append` — what it compiles to in two parts.
-/

namespace Shorthand.Escape

variable {a b raw raw' x y : Text} {ps qs : List Piece}

/-! ## Tokens across a cut -/

/-- A token cut in two has its percent sign in the first part, and nowhere else. -/
lemma Token.eq_cons_of_append {t : Token} (h : t.written = x ++ y) (hx : x ≠ []) :
    (∃ rest, x = '%' :: rest) ∧ '%' ∉ y := by
  obtain ⟨c, rest, rfl⟩ := List.exists_cons_of_ne_nil hx
  rw [written, List.cons_append, List.cons.injEq] at h
  obtain ⟨rfl, htail⟩ := h
  refine ⟨⟨rest, rfl⟩, fun hm => ?_⟩
  have hmem : '%' ∈ ['\\', t.letter] := htail ▸ List.mem_append_right rest hm
  revert hmem
  cases t <;> decide

/-- The parts have three characters together. -/
lemma Token.length_add_length {t : Token} (h : t.written = x ++ y) : x.length + y.length = 3 := by
  rw [← List.length_append, ← h]
  rfl

/-- A token can lie across a cut in two ways: behind its percent sign, or behind the backslash. -/
lemma noTokenAcross_iff :
    NoTokenAcross a b ↔ ∀ t ∈ [Token.lineBreak, Token.tab, Token.cursor], ∀ n ∈ [1, 2],
      ¬(t.written.take n <:+ a ∧ t.written.drop n <+: b) := by
  constructor
  · rintro h t - n hn ⟨hbefore, hbehind⟩
    have hlen : t.written.length = 3 := rfl
    have hn : n = 1 ∨ n = 2 := by simpa using hn
    have hx : t.written.take n ≠ [] := by
      rw [← List.length_pos_iff, List.length_take]
      omega
    have hy : t.written.drop n ≠ [] := by
      rw [← List.length_pos_iff, List.length_drop]
      omega
    exact h t _ _ (List.take_append_drop n t.written).symm hx hy hbefore hbehind
  · intro h t x y hxy hx hy hbefore hbehind
    have hlen := Token.length_add_length hxy
    have hx := List.length_pos_iff.mpr hx
    have hy := List.length_pos_iff.mpr hy
    have hn : x.length ∈ [1, 2] := by
      simp only [List.mem_cons, List.not_mem_nil, or_false]
      omega
    have ht : t ∈ [Token.lineBreak, Token.tab, Token.cursor] := by cases t <;> decide
    refine h t ht x.length hn ⟨?_, ?_⟩
    · rwa [hxy, List.take_left]
    · rwa [hxy, List.drop_left]

/-- The letters around the cut decide whether a token lies across it. -/
instance decidableNoTokenAcross (a b : Text) : Decidable (NoTokenAcross a b) :=
  decidable_of_iff _ noTokenAcross_iff.symm

/-- No token begins in a text without a percent sign. -/
lemma noTokenAcross_of_not_mem (h : '%' ∉ a) (b : Text) : NoTokenAcross a b := by
  rintro t x y hxy hx - hsuffix -
  obtain ⟨⟨rest, rfl⟩, -⟩ := Token.eq_cons_of_append hxy hx
  exact h (hsuffix.subset List.mem_cons_self)

/-! ## Pieces side by side -/

/-- What stands before pieces with a place of the cursor does not count. -/
lemma cursorBack_append_of_mem (ps : List Piece) (h : .cursor ∈ qs) :
    cursorBack (ps ++ qs) = cursorBack qs := by
  obtain ⟨before, behind, rfl, hnot⟩ := Text.exists_last_of_mem h
  rw [← List.append_assoc, cursorBack_append_cursor _ hnot, cursorBack_append_cursor _ hnot]

/-- What pieces without a place insert lies behind the cursor. -/
lemma cursorBack_append_of_not_mem (hps : .cursor ∈ ps) (hqs : .cursor ∉ qs) :
    cursorBack (ps ++ qs) = cursorBack ps + (insertedText qs).length := by
  obtain ⟨before, behind, rfl, hnot⟩ := Text.exists_last_of_mem hps
  have hnot' : .cursor ∉ behind ++ qs := by simp [hnot, hqs]
  rw [List.append_assoc, List.cons_append, cursorBack_append_cursor _ hnot',
    cursorBack_append_cursor _ hnot, insertedText_append, List.length_append]

/-- **Where the cursor rests in pieces side by side:** where it rests in the second if they have a
place for it, else before all that these insert if the first have one. -/
theorem cursorBack_append (ps qs : List Piece) :
    cursorBack (ps ++ qs) =
      if .cursor ∈ qs then cursorBack qs
      else if .cursor ∈ ps then cursorBack ps + (insertedText qs).length
      else 0 := by
  split_ifs with hqs hps
  · exact cursorBack_append_of_mem ps hqs
  · exact cursorBack_append_of_not_mem hps hqs
  · exact cursorBack_of_not_mem (by simp [hps, hqs])

/-! ## Written expansions side by side -/

/-- A text shorter than a token stands for itself. -/
lemma text_compile_of_length_lt (h : raw.length < 3) : (compile raw).text = raw := by
  have hno (t : Token) : ¬t.written <:+: raw := fun hin => absurd hin.length_le (Nat.not_le.mpr h)
  have hscan : insertedText (scan raw) = raw := by
    rw [scan_of_no_token hno, insertedText_map_char]
  exact hscan

/-- Without a token across them, two written expansions insert their texts side by side. -/
lemma text_compile_append (h : NoTokenAcross a b) :
    (compile (a ++ b)).text = (compile a).text ++ (compile b).text :=
  (congrArg insertedText (scan_append h)).trans (insertedText_append _ _)

/-- A token inserts what its piece does, wherever it stands. -/
lemma text_compile_append_written (a : Text) (t : Token) (b : Text) :
    (compile (a ++ t.written ++ b)).text =
      (compile a).text ++ (insertedText [t.piece] ++ (compile b).text) := by
  have hinserted := congrArg insertedText (scan_append_written a t b)
  rwa [← List.singleton_append, insertedText_append, insertedText_append] at hinserted

/-- **Where a written expansion can be cut:** it inserts what its parts insert exactly when no
token lies across the cut.

**Proof sketch.** A token across the cut inserts one character at most. In the parts its three
characters stand for themselves: those before the cut start with its percent sign, so no other
token reaches into them, and those behind the cut have none, so no token begins there. -/
theorem text_compile_append_iff :
    (compile (a ++ b)).text = (compile a).text ++ (compile b).text ↔ NoTokenAcross a b := by
  refine ⟨?_, text_compile_append⟩
  rintro htext t x y hxy hx hy ⟨front, rfl⟩ ⟨rest, rfl⟩
  have hlen := Token.length_add_length hxy
  have hx' := List.length_pos_iff.mpr hx
  have hy' := List.length_pos_iff.mpr hy
  obtain ⟨⟨tail, htail⟩, hpercent⟩ := Token.eq_cons_of_append hxy hx
  have hfront : (compile (front ++ x)).text = (compile front).text ++ x := by
    have hacross : NoTokenAcross front x := htail ▸ noTokenAcross_percent front tail
    rw [text_compile_append hacross, text_compile_of_length_lt (by omega : x.length < 3)]
  have hrest : (compile (y ++ rest)).text = y ++ (compile rest).text := by
    rw [text_compile_append (noTokenAcross_of_not_mem hpercent rest),
      text_compile_of_length_lt (by omega : y.length < 3)]
  have hwhole := text_compile_append_written front t rest
  have hone : (insertedText [t.piece]).length ≤ 1 := by cases t <;> decide
  have hcut : front ++ x ++ (y ++ rest) = front ++ t.written ++ rest := by
    rw [hxy]
    simp only [List.append_assoc]
  rw [hcut, hwhole, hfront, hrest] at htext
  have hlengths := congrArg List.length htext
  simp only [List.length_append] at hlengths
  omega

/-- One more place of the cursor leaves no trace when another one follows. -/
lemma compile_append_cursor (h : NoTokenAcross a b) (hb : Token.cursor.written <:+: b) :
    compile (a ++ Token.cursor.written ++ b) = compile (a ++ b) := by
  have hmem : .cursor ∈ scan b := cursor_mem_scan_iff.mpr hb
  have htext : (compile (a ++ Token.cursor.written ++ b)).text = (compile (a ++ b)).text := by
    rw [text_compile_append_written, text_compile_append h]
    rfl
  have hback : cursorBack (scan (a ++ Token.cursor.written ++ b)) = cursorBack (scan (a ++ b)) := by
    rw [scan_append_written, scan_append h, cursorBack_append_of_mem _ hmem,
      cursorBack_append_of_mem _ (List.mem_cons_of_mem _ hmem)]
    exact cursorBack_append_of_mem [.cursor] hmem
  have hinserted : insertedText (scan (a ++ Token.cursor.written ++ b)) =
      insertedText (scan (a ++ b)) := htext
  simp only [compile, hinserted, hback]

/-- **A written expansion compiles in two parts** when no token lies across them. It inserts the
texts of both, one behind the other, and has a line break when one of them has. The cursor rests
where it does in the second part if there is a place for it, else before the place in the first
part and all of the second, and at the end if there is none. So the last place counts, and one
more place before it leaves no trace. -/
theorem compile_append (h : NoTokenAcross a b) :
    (compile (a ++ b)).text = (compile a).text ++ (compile b).text ∧
      (compile (a ++ b)).hasBreak = ((compile a).hasBreak || (compile b).hasBreak) ∧
      (compile (a ++ b)).cursorBack =
        (if Token.cursor.written <:+: b then (compile b).cursorBack
          else if Token.cursor.written <:+: a then (compile a).cursorBack + (compile b).text.length
          else 0) ∧
      (Token.cursor.written <:+: b →
        compile (a ++ Token.cursor.written ++ b) = compile (a ++ b)) := by
  have htext := text_compile_append h
  have hback := cursorBack_append (scan a) (scan b)
  rw [← scan_append h] at hback
  refine ⟨htext, ?_, ?_, compile_append_cursor h⟩
  · show (compile (a ++ b)).text.contains '\n' = _
    rw [htext]
    exact List.contains_append
  · show (cursorBack (scan (a ++ b)) : ℤ) = _
    rw [hback]
    simp only [cursor_mem_scan_iff]
    split_ifs <;> rfl

/-- A percent sign and a backslash before the cut, a letter of no token behind it, and a place of
the cursor in each part. -/
theorem compile_append_backslash :
    NoTokenAcross "1%\\e2%\\".toList "x%\\n%\\e3".toList ∧
      compile "1%\\e2%\\x%\\n%\\e3".toList =
        { text := "12%\\x\n3".toList, cursorBack := 1, hasBreak := true } ∧
      compile "1%\\e2%\\%\\ex%\\n%\\e3".toList = compile "1%\\e2%\\x%\\n%\\e3".toList := by
  have hacross : NoTokenAcross "1%\\e2%\\".toList "x%\\n%\\e3".toList := by decide
  obtain ⟨htext, hbreak, hback, hearlier⟩ := compile_append hacross
  have hplace : Token.cursor.written <:+: "x%\\n%\\e3".toList := by decide
  rw [if_pos hplace] at hback
  refine ⟨hacross, ?_, hearlier hplace⟩
  have htext' : (compile "1%\\e2%\\x%\\n%\\e3".toList).text = "12%\\x\n3".toList :=
    htext.trans (by decide)
  have hbreak' : (compile "1%\\e2%\\x%\\n%\\e3".toList).hasBreak = true := hbreak.trans (by decide)
  have hback' : (compile "1%\\e2%\\x%\\n%\\e3".toList).cursorBack = 1 := hback.trans (by decide)
  rw [← htext', ← hbreak', ← hback']

end Shorthand.Escape
