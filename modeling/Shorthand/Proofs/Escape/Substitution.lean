import Shorthand.Proofs.Escape.Token
import Shorthand.Proofs.Text.Replace

set_option autoImplicit false
set_option relaxedAutoImplicit false

/-!
# Expansions by substitution

The scan of a written expansion takes one pass. The text that it makes is also what three
replacements over the whole text make, one for each token: first the line breaks, then the tabs,
and last the places of the cursor are taken out. Taking these out can make a text that looks like
a token, and no replacement follows that would read it.

## Main definitions

* `Shorthand.Escape.substituted` — a written expansion after the three replacements.

## Main results

* `Shorthand.Escape.text_compile` — the scan makes what the replacements make.
* `Shorthand.Escape.compile_eq_substitution` — a compiled expansion without the scan.
-/

namespace Shorthand.Escape

open Text

variable {c : Char} {s raw : Text}

/-! ## Three replacements -/

/-- A written expansion where line breaks and tabs were put in for their tokens, one after the
other, and the tokens of the cursor were taken out in the end. -/
def substituted (raw : Text) : Text :=
  replaceAll Token.cursor.written []
    (replaceAll Token.tab.written ['\t'] (replaceAll Token.lineBreak.written ['\n'] raw))

/-- A character other than the percent sign stays. -/
lemma replaceAll_written_cons (t : Token) (hc : c ≠ '%') (new s : Text) :
    replaceAll t.written new (c :: s) = c :: replaceAll t.written new s :=
  replaceAll_cons t.written_ne_nil (fun h => hc (List.cons_prefix_cons.mp h).1.symm) new

/-- A token stays where another one is replaced. -/
lemma replaceAll_written_of_ne {t u : Token} (h : u ≠ t) (new s : Text) :
    replaceAll u.written new (t.written ++ s) = t.written ++ replaceAll u.written new s := by
  have hfront : ¬u.written <+: '%' :: '\\' :: t.letter :: s := by
    intro hp
    have hletter : u.letter = t.letter := by simpa [Token.written] using hp
    exact h (Token.letter_injective hletter)
  have hpercent : t.letter ≠ '%' := by cases t <;> decide
  calc replaceAll u.written new ('%' :: '\\' :: t.letter :: s)
      = '%' :: replaceAll u.written new ('\\' :: t.letter :: s) :=
        replaceAll_cons u.written_ne_nil hfront new
    _ = '%' :: '\\' :: replaceAll u.written new (t.letter :: s) := by
        rw [replaceAll_written_cons u (by decide)]
    _ = '%' :: '\\' :: t.letter :: replaceAll u.written new s := by
        rw [replaceAll_written_cons u hpercent]

/-- A token at the front is replaced, by nothing if it is the one of the cursor. -/
lemma substituted_written (t : Token) (s : Text) :
    substituted (t.written ++ s) = insertedText [t.piece] ++ substituted s := by
  unfold substituted
  cases t with
  | lineBreak =>
    rw [replaceAll_append Token.lineBreak.written_ne_nil, List.singleton_append,
      replaceAll_written_cons .tab (by decide), replaceAll_written_cons .cursor (by decide)]
    rfl
  | tab =>
    rw [replaceAll_written_of_ne (by decide), replaceAll_append Token.tab.written_ne_nil,
      List.singleton_append, replaceAll_written_cons .cursor (by decide)]
    rfl
  | cursor =>
    rw [replaceAll_written_of_ne (by decide), replaceAll_written_of_ne (by decide),
      replaceAll_append Token.cursor.written_ne_nil]
    rfl

/-- Putting a line break or a tab in makes no token begin at a character that stays. -/
lemma not_written_prefix_replaceAll {t u : Token} {new : Char} (hnew : new ∉ t.written)
    (h : ¬t.written <+: c :: s) : ¬t.written <+: c :: replaceAll u.written [new] s := by
  intro hp
  obtain ⟨hc, htail⟩ := List.cons_prefix_cons.mp hp
  have hs := prefix_of_prefix_replaceAll u.written_ne_nil
    (fun hm => hnew (List.mem_cons_of_mem _ hm)) htail
  exact h (List.cons_prefix_cons.mpr ⟨hc, hs⟩)

/-- A character that begins no token stays. -/
lemma substituted_cons (h : ∀ t : Token, ¬t.written <+: c :: s) :
    substituted (c :: s) = c :: substituted s := by
  have htab : ¬Token.tab.written <+: c :: replaceAll Token.lineBreak.written ['\n'] s :=
    not_written_prefix_replaceAll (by decide) (h .tab)
  have hcursor : ¬Token.cursor.written <+:
      c :: replaceAll Token.tab.written ['\t'] (replaceAll Token.lineBreak.written ['\n'] s) :=
    not_written_prefix_replaceAll (by decide)
      (not_written_prefix_replaceAll (by decide) (h .cursor))
  unfold substituted
  rw [replaceAll_cons Token.lineBreak.written_ne_nil (h .lineBreak),
    replaceAll_cons Token.tab.written_ne_nil htab,
    replaceAll_cons Token.cursor.written_ne_nil hcursor]

/-- **The scan makes what the replacements make.** -/
theorem text_compile (raw : Text) : (compile raw).text = substituted raw := by
  have hscan : insertedText (scan raw) = substituted raw := by
    induction raw using scan_induction with
    | nil => rfl
    | token t s ih =>
      rw [scan_written, substituted_written, ← ih]
      exact insertedText_append [t.piece] (scan s)
    | char c s hno ih =>
      rw [scan_cons hno, substituted_cons hno, ← ih]
      rfl
  exact hscan

/-- **A compiled expansion without the scan.** Its text is the written one after three
replacements over the whole text; it says truly whether there is a line break; and its cursor
rests at the end, or, when the token of the cursor occurs, before what the text behind the last
occurrence makes.

**Proof sketch.** Tokens do not overlap, since their percent sign is their first character only,
and neither a line break nor a tab is part of one. So the first two replacements keep a token
where it is and make no new one, at each step of the scan. The last one can make what looks like a
token, out of characters that the scan has passed already. -/
theorem compile_eq_substitution (raw : Text) :
    (compile raw).text =
        replaceAll Token.cursor.written []
          (replaceAll Token.tab.written ['\t']
            (replaceAll Token.lineBreak.written ['\n'] raw)) ∧
      ((compile raw).hasBreak = true ↔ '\n' ∈ (compile raw).text) ∧
      (¬Token.cursor.written <:+: raw → (compile raw).cursorBack = 0) ∧
      (Token.cursor.written <:+: raw → ∃ n, LastAt Token.cursor.written raw n ∧
        (compile raw).cursorBack =
          ((compile (raw.drop (n + Token.cursor.written.length))).text.length : ℤ)) := by
  refine ⟨text_compile raw, hasBreak_compile raw, cursorBack_compile_of_not_infix, fun h => ?_⟩
  obtain ⟨n, hn⟩ := exists_lastAt Token.cursor.written_ne_nil h
  exact ⟨n, hn, cursorBack_compile hn⟩

/-- Taking out a place of the cursor makes a text that looks like a line break, and stays. -/
example : (compile "%%\\e\\n".toList).text = "%\\n".toList := by decide

end Shorthand.Escape
