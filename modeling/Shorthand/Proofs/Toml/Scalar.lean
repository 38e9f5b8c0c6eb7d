import Mathlib.Data.List.Basic
import Mathlib.Tactic.Lemma
import Mathlib.Tactic.SplitIfs
import Shorthand.Toml.Read
import Shorthand.Toml.Write

set_option autoImplicit false
set_option relaxedAutoImplicit false

/-!
# Values on one line are read back

A text, a truth value or an integer is written on one line and read back from it. In a text it
matters that what a character is written as can only be read in one way, so that a string is read
back character by character; a control character without a letter of its own is found again in its
four hexadecimal digits. A number is read as one only after the reader has found that it starts
neither a date nor a time: what follows its digits is another digit or the end of the line, and
never the hyphen or colon that those need.

## Main definitions

* `Shorthand.Toml.Simple` — the values that are written on one line and read back.

## Main results

* `Shorthand.Toml.basicString_written` — strings are read back.
* `Shorthand.Toml.number_ofInt` — integers are read back.
* `Shorthand.Toml.Simple.value?_written` — the values on one line are read back.
-/

namespace Shorthand.Toml

/-! ## Strings -/

/-- Control characters have small numbers. -/
lemma toNat_lt_of_isControl {c : Char} (h : isControl c = true) : c.toNat < 0x80 := by
  simp only [isControl, Bool.or_eq_true, Bool.and_eq_true, decide_eq_true_eq, beq_iff_eq] at h
  omega

/-- A control character is found again in its four hexadecimal digits. -/
lemma exists_hex_digits {c : Char} (h : isControl c = true) :
    ∃ x y z w, Text.hex 4 c.toNat = [x, y, z, w] ∧ scalarValue? [x, y, z, w] = some c := by
  have hall : ∀ n < 0x80,
      (Text.hex 4 n).length = 4 ∧ scalarValue? (Text.hex 4 n) = some (Char.ofNat n) := by
    decide +kernel
  obtain ⟨hlength, hvalue⟩ := hall c.toNat (toNat_lt_of_isControl h)
  obtain ⟨x, y, z, w, hdigits⟩ := List.length_eq_four.mp hlength
  exact ⟨x, y, z, w, hdigits, by rw [← hdigits, hvalue, Char.ofNat_toNat]⟩

/-- What a character is written as can only be read in one way. -/
lemma basicString_writeChar (c : Char) (rest : Text) :
    basicString (writeChar c ++ rest) = (basicString rest).map fun (s, r) => (c :: s, r) := by
  rw [writeChar]
  split_ifs with hquote hbackslash hb hn hf hr hcontrol
  · subst hquote; simp [basicString, escaped?]
  · subst hbackslash; simp [basicString, escaped?]
  · subst hb; simp [basicString, escaped?]
  · subst hn; simp [basicString, escaped?]
  · subst hf; simp [basicString, escaped?]
  · subst hr; simp [basicString, escaped?]
  · obtain ⟨x, y, z, w, hdigits, hvalue⟩ := exists_hex_digits hcontrol
    simp [basicString, hdigits, hvalue]
  · simp [basicString, hbackslash, hcontrol]

/-- **Strings are read back,** up to their closing quote. -/
theorem basicString_written (s rest : Text) :
    basicString (s.flatMap writeChar ++ '"' :: rest) = some (s, rest) := by
  induction s with
  | nil => simp [basicString]
  | cons c s ih => simp [basicString_writeChar, ih]

/-- No character is written as something that starts with a quote or is empty. -/
lemma exists_writeChar_eq_cons (c : Char) : ∃ d ds, writeChar c = d :: ds ∧ d ≠ '"' := by
  rw [writeChar]
  split_ifs with hquote <;> simp [hquote]

/-- A string does not start as one over several lines does. -/
lemma string?_writeString (s rest : Text) :
    string? (writeString s ++ '\n' :: rest) = some (s, '\n' :: rest) := by
  have hbody := basicString_written s ('\n' :: rest)
  cases s with
  | nil => simp [writeString, string?, basicString]
  | cons c s =>
    obtain ⟨d, ds, hd, hquote⟩ := exists_writeChar_eq_cons c
    simp only [List.flatMap_cons, hd, List.cons_append] at hbody
    simp only [writeString, List.flatMap_cons, hd, List.cons_append, List.append_assoc,
      List.nil_append, string?]
    split <;> simp_all

/-! ## Integers -/

variable {ds rest : Text} {n : Nat}

/-- A digit is no other character. -/
lemma ne_of_isDigit {c d : Char} (hc : c.isDigit = true) (hd : d.isDigit = false) : c ≠ d := by
  rintro rfl
  simp [hd] at hc

/-- The digits of a group end with the line. -/
lemma moreDigits_digits (h : ∀ c ∈ ds, c.isDigit = true) :
    moreDigits Char.isDigit (ds ++ '\n' :: rest) = (ds, '\n' :: rest) := by
  induction ds with
  | nil => simp [moreDigits]
  | cons c ds ih =>
    obtain ⟨hc, hds⟩ := List.forall_mem_cons.mp h
    have hunderscore : c ≠ '_' := ne_of_isDigit hc (by decide)
    simp [moreDigits, hunderscore, hc, ih hds]

/-- Digits up to the end of the line are a group. -/
lemma digitGroup_digits (hne : ds ≠ []) (h : ∀ c ∈ ds, c.isDigit = true) :
    digitGroup Char.isDigit (ds ++ '\n' :: rest) = some (ds, '\n' :: rest) := by
  cases ds with
  | nil => exact absurd rfl hne
  | cons c ds =>
    obtain ⟨hc, hds⟩ := List.forall_mem_cons.mp h
    simp [digitGroup, hc, moreDigits_digits hds]

/-- The value of a digit. -/
lemma hexDigit?_of_isDigit {c : Char} (h : c.isDigit = true) :
    Json.hexDigit? c = some (c.toNat - '0'.toNat) := by
  simp only [Char.isDigit, Bool.and_eq_true, decide_eq_true_eq] at h
  exact if_pos ⟨h.1, h.2⟩

/-- The value of the digits of a number. -/
lemma valueOf_toDigits (n : Nat) : valueOf 10 (Nat.toDigits 10 n) = n := by
  have hfold : ∀ ds : Text, (∀ c ∈ ds, c.isDigit = true) → ∀ m,
      ds.foldl (fun n c => 10 * n + (Json.hexDigit? c).getD 0) m = Nat.ofDigitChars 10 ds m := by
    intro ds
    induction ds with
    | nil => exact fun _ _ => rfl
    | cons c ds ih =>
      intro h m
      obtain ⟨hc, hds⟩ := List.forall_mem_cons.mp h
      rw [List.foldl_cons, hexDigit?_of_isDigit hc, ih hds]
      rfl
  rw [valueOf, hfold _ fun c hc => Nat.isDigit_of_mem_toDigits (by decide) (by decide) hc]
  exact Nat.ofDigitChars_ten_toDigits

/-- The digits of a number are digits. -/
lemma isDigit_toDigits (n : Nat) : ∀ c ∈ Nat.toDigits 10 n, c.isDigit = true :=
  fun _ hc => Nat.isDigit_of_mem_toDigits (by decide) (by decide) hc

/-- The digits of a positive number do not start with a zero. -/
lemma exists_toDigits_eq_cons (hn : 0 < n) :
    ∃ c ds, Nat.toDigits 10 n = c :: ds ∧ c ≠ '0' := by
  induction n using Nat.strongRecOn with
  | ind n ih =>
    rw [Nat.toDigits_eq_if (by decide)]
    split
    · rename_i hlt
      have hall : ∀ n < 10, 0 < n → Nat.digitChar n ≠ '0' := by decide
      exact ⟨_, [], rfl, hall n hlt hn⟩
    · obtain ⟨c, ds, hds, hc⟩ := ih (n / 10) (by omega) (by omega)
      exact ⟨c, ds ++ [Nat.digitChar (n % 10)], by rw [hds, List.cons_append], hc⟩

/-- Digits that do not start with a zero are an integer, also after a minus sign. -/
lemma decimalNumber_digits {c : Char} (hzero : c ≠ '0') (h : ∀ d ∈ c :: ds, d.isDigit = true)
    (hlength : (c :: ds).length ≤ Text.maxDigits) (rest : Text) :
    decimalNumber (c :: (ds ++ '\n' :: rest)) = some (.int (valueOf 10 (c :: ds)), '\n' :: rest) ∧
      decimalNumber ('-' :: c :: (ds ++ '\n' :: rest)) =
        some (.int (-valueOf 10 (c :: ds)), '\n' :: rest) := by
  have hc : c.isDigit = true := h c List.mem_cons_self
  have hminus : c ≠ '-' := ne_of_isDigit hc (by decide)
  have hplus : c ≠ '+' := ne_of_isDigit hc (by decide)
  have hgroup : digitGroup Char.isDigit (c :: (ds ++ '\n' :: rest)) =
      some (c :: ds, '\n' :: rest) :=
    digitGroup_digits (List.cons_ne_nil c ds) h
  have hf : fraction ('\n' :: rest) = none := rfl
  have he : exponent ('\n' :: rest) = none := rfl
  have hnot : ¬ Text.maxDigits < (c :: ds).length := Nat.not_lt.mpr hlength
  constructor
  · unfold decimalNumber
    simp only [List.cons.injEq, hminus, hplus, hzero, false_and, imp_false, not_false_eq_true,
      implies_true, hgroup, Option.bind_some, hf, he, Option.isNone_none, Bool.and_self, if_true,
      if_neg hnot, Bool.false_eq_true, if_false]
  · unfold decimalNumber
    simp only [List.cons.injEq, hzero, false_and, imp_false, not_false_eq_true, implies_true,
      hgroup, Option.bind_some, hf, he, Option.isNone_none, Bool.and_self, if_true, if_neg hnot]

/-- Decimal numbers are read back. -/
lemma decimalNumber_ofInt (i : Int) (hi : i.natAbs < Nat.pow 10 Text.maxDigits) (rest : Text) :
    decimalNumber (Text.ofInt i ++ '\n' :: rest) = some (.int i, '\n' :: rest) := by
  -- What is read from the digits of a positive number, alone and after a minus sign.
  have hread : ∀ n, 0 < n → n < Nat.pow 10 Text.maxDigits →
      decimalNumber (Nat.toDigits 10 n ++ '\n' :: rest) = some (.int n, '\n' :: rest) ∧
        decimalNumber ('-' :: Nat.toDigits 10 n ++ '\n' :: rest) =
          some (.int (-n), '\n' :: rest) := by
    intro n hn hlt
    obtain ⟨c, ds, hds, hc⟩ := exists_toDigits_eq_cons hn
    have hdigits := isDigit_toDigits n
    rw [Nat.pow_eq] at hlt
    have hlength := (Nat.length_toDigits_le_iff (by decide) (by decide)).mpr hlt
    have hvalue := valueOf_toDigits n
    rw [hds] at hdigits hlength hvalue
    rw [hds, ← hvalue]
    exact decimalNumber_digits hc hdigits hlength rest
  cases i with
  | ofNat n =>
    rcases Nat.eq_zero_or_pos n with rfl | hn
    · rfl
    · exact (hread n hn hi).1
  | negSucc n => exact (hread (n + 1) n.succ_pos hi).2

/-- **Integers are read back.** -/
theorem number_ofInt (i : Int) (hi : i.natAbs < Nat.pow 10 Text.maxDigits) (rest : Text) :
    number (Text.ofInt i ++ '\n' :: rest) = some (.int i, '\n' :: rest) := by
  have hprefix : prefixedInteger (Text.ofInt i ++ '\n' :: rest) = none := by
    cases i with
    | ofNat n =>
      rcases Nat.eq_zero_or_pos n with rfl | hn
      · rfl
      · obtain ⟨c, ds, hds, hc⟩ := exists_toDigits_eq_cons hn
        simp only [Text.ofInt, Text.ofNat, hds, List.cons_append]
        unfold prefixedInteger
        split <;> simp_all
    | negSucc n => rfl
  rw [number, hprefix, decimalNumber_ofInt i hi]

/-! ## No moments -/

/-- What follows some of the digits is another digit or the end of the line. -/
lemma expect_fixedDigits {x : Char} {count m : Nat} {r : Text} (hdigit : x.isDigit = false)
    (hbreak : x ≠ '\n') (hds : ∀ c ∈ ds, c.isDigit = true)
    (h : fixedDigits count (ds ++ '\n' :: rest) = some (m, r)) : expect x r = none := by
  rw [fixedDigits] at h
  split at h
  · rename_i htake
    cases h
    have hcount : count ≤ ds.length := by
      refine Nat.le_of_not_lt fun hlt => ?_
      have hmem : '\n' ∈ (ds ++ '\n' :: rest).take count := by
        obtain ⟨k, hk⟩ : ∃ k, count - ds.length = k + 1 := ⟨count - ds.length - 1, by omega⟩
        simp [List.take_append, hk]
      exact absurd (List.all_eq_true.mp htake.2 _ hmem) (by decide)
    rw [List.drop_append_of_le_length hcount]
    cases hdrop : ds.drop count with
    | nil => simp [expect, hbreak]
    | cons c cs =>
      have hc : c.isDigit = true := hds c (List.mem_of_mem_drop (hdrop ▸ List.mem_cons_self))
      simp [expect, (ne_of_isDigit hc hdigit).symm]
  · cases h

/-- A minus sign is no digit. -/
lemma fixedDigits_minus {count : Nat} (hcount : 0 < count) (s : Text) :
    fixedDigits count ('-' :: s) = none := by
  obtain ⟨k, rfl⟩ : ∃ k, count = k + 1 := ⟨count - 1, by omega⟩
  have hminus : Char.isDigit '-' = false := by decide
  simp [fixedDigits, hminus]

/-- A text that is not what a date or a time starts with is none. -/
lemma moment?_eq_none {s : Text} (h : ∀ count m r, 0 < count → fixedDigits count s = some (m, r) →
    expect '-' r = none ∧ expect ':' r = none) : moment? s = none ∧ time? s = none := by
  constructor
  · have hdate : date? s = none := by
      rw [date?]
      cases hy : fixedDigits 4 s with
      | none => rfl
      | some p => simp [(h 4 p.1 p.2 (by decide) hy).1]
    simp [moment?, hdate]
  · rw [time?, twoDigits]
    cases hh : fixedDigits 2 s with
    | none => rfl
    | some p =>
      have hcolon := (h 2 p.1 p.2 (by decide) hh).2
      simp only [Option.bind_some]
      split <;> simp [hcolon]

/-- An integer is neither a date nor a time. -/
lemma moment?_ofInt (i : Int) (rest : Text) :
    moment? (Text.ofInt i ++ '\n' :: rest) = none ∧
    time? (Text.ofInt i ++ '\n' :: rest) = none := by
  apply moment?_eq_none
  intro count m r hcount h
  cases i with
  | ofNat n =>
    have hds := isDigit_toDigits n
    exact ⟨expect_fixedDigits (by decide) (by decide) hds h,
      expect_fixedDigits (by decide) (by decide) hds h⟩
  | negSucc n =>
    have hnone := fixedDigits_minus hcount (Nat.toDigits 10 (n + 1) ++ '\n' :: rest)
    exact absurd (hnone.symm.trans h) (by simp)

/-! ## Values -/

/-- A text, a truth value, or an integer with no more digits than can be read. -/
inductive Simple : Value → Prop
  | text (s : Text) : Simple (.text s)
  | bool (b : Bool) : Simple (.bool b)
  | int (i : Int) (h : i.natAbs < Nat.pow 10 Text.maxDigits) : Simple (.int i)

/-- An integer starts with a minus sign or a digit, and with nothing else. -/
lemma exists_ofInt_eq_cons (i : Int) :
    ∃ c s, Text.ofInt i = c :: s ∧ ∀ d, d ≠ '-' → d.isDigit = false → c ≠ d := by
  cases i with
  | ofNat n =>
    cases hds : Nat.toDigits 10 n with
    | nil => exact absurd hds Nat.toDigits_ne_nil
    | cons c ds =>
      have hc : c.isDigit = true := isDigit_toDigits n c (hds ▸ List.mem_cons_self)
      exact ⟨c, ds, hds, fun _ _ hd => ne_of_isDigit hc hd⟩
  | negSucc n => exact ⟨'-', _, rfl, fun _ hd _ => hd.symm⟩

/-- An integer is read as one. -/
lemma scalar_ofInt (i : Int) (hi : i.natAbs < Nat.pow 10 Text.maxDigits) (rest : Text) :
    scalar (Text.ofInt i ++ '\n' :: rest) = some (.int i, '\n' :: rest) := by
  obtain ⟨hmoment, htime⟩ := moment?_ofInt i rest
  have hnumber := number_ofInt i hi rest
  obtain ⟨c, s, hs, hne⟩ := exists_ofInt_eq_cons i
  have hquote := hne '"' (by decide) (by decide)
  have hapostrophe := hne '\'' (by decide) (by decide)
  have ht := hne 't' (by decide) (by decide)
  have hf := hne 'f' (by decide) (by decide)
  rw [hs, List.cons_append] at hmoment htime hnumber ⊢
  simp [scalar, hquote, hapostrophe, hmoment, htime, hnumber, List.isPrefixOf, ht.symm, hf.symm]

/-- The values on one line are read back from where they start. -/
lemma Simple.scalar_written {v : Value} (h : Simple v) (rest : Text) :
    scalar (writeInline 0 v ++ '\n' :: rest) = some (v, '\n' :: rest) := by
  cases h with
  | text s =>
    have hstring := string?_writeString s rest
    simp only [writeInline, writeString, List.cons_append] at hstring ⊢
    simp only [scalar, hstring, Option.map_some]
  | bool b => cases b <;> rfl
  | int i hi => exact scalar_ofInt i hi rest

/-- How a value on one line starts: neither as an array or a table does, nor with a space. -/
lemma Simple.exists_written_eq_cons {v : Value} (h : Simple v) :
    ∃ c s, writeInline 0 v = c :: s ∧ c ≠ '[' ∧ c ≠ '\x7b' ∧ isSpace c = false := by
  cases h with
  | text s => exact ⟨'"', _, rfl, by decide, by decide, by decide⟩
  | bool b => cases b <;> exact ⟨_, _, rfl, by decide, by decide, by decide⟩
  | int i hi =>
    obtain ⟨c, s, hs, hne⟩ := exists_ofInt_eq_cons i
    have hspace := hne ' ' (by decide) (by decide)
    have htab := hne '\t' (by decide) (by decide)
    exact ⟨c, s, hs, hne '[' (by decide) (by decide), hne '\x7b' (by decide) (by decide),
      by simp [isSpace, hspace, htab]⟩

/-- **The values on one line are read back.** -/
theorem Simple.value?_written {v : Value} (h : Simple v) (rest : Text) :
    value? (writeInline 0 v ++ '\n' :: rest) = some (v, '\n' :: rest) := by
  have hscalar := h.scalar_written rest
  obtain ⟨c, s, hs, hbracket, hbrace, -⟩ := h.exists_written_eq_cons
  rw [hs, List.cons_append] at hscalar ⊢
  rw [value?, value.eq_def]
  simp [hbracket, hbrace, hscalar]

end Shorthand.Toml
