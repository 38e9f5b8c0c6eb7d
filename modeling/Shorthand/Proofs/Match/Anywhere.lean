import Shorthand.Proofs.Match.Ending
import Shorthand.Proofs.Source.Compiled

set_option autoImplicit false
set_option relaxedAutoImplicit false

/-!
# Looking for a trigger anywhere

An offset may be any integer, and a range that is read is moved into the text. So the search
compares a trigger with a range that may be shorter than it, or empty. Outside the text that finds
nothing but empty triggers, which a source never defines; in the text it finds what ends the text
before the offset.

## Main definitions

* `Shorthand.Match.Stands` — the search stops at a trigger.
* `Shorthand.Match.standing?` — the first entry at which it stops.
* `Shorthand.Match.IsFirst` — the first entry of a table whose trigger ends a text.

## Main results

* `Shorthand.Match.sees_findFrom` — the search stops at the first entry that it can, and only looks.
* `Shorthand.Match.stands_natCast`, `Shorthand.Match.stands_of_neg`,
  `Shorthand.Match.stands_of_gt` — where it stops.
* `Shorthand.Match.Stands.within` — it stops in the text, or at an empty trigger.
* `Shorthand.Match.tryTrigger_anchored` — what is found and what becomes of the host.
-/

namespace Shorthand.Match

variable {d : Document} {offset floor : Int} {trigger : Text} {n : Nat}

/-! ## Where the search stops -/

/-- The search for a trigger that ends at an offset and does not start before `floor` stops at
this one. -/
def Stands (d : Document) (offset floor : Int) (trigger : Text) : Prop :=
  floor ≤ offset - trigger.length ∧ d.getRange (offset - trigger.length) offset = trigger

/-- Whether a trigger stands there is decided by looking at its conditions. -/
instance (d : Document) (offset floor : Int) (trigger : Text) :
    Decidable (Stands d offset floor trigger) := inferInstanceAs (Decidable (_ ∧ _))

/-- The first entry at which the search stops. -/
def standing? (d : Document) (offset floor : Int) (snippets : Entries Expansion) : Option Match :=
  (List.find? (fun e => decide (Stands d offset floor e.1)) snippets).map fun e =>
    ⟨offset - e.1.length, e.1, e.2⟩

/-- **The search stops at the first entry that it can,** and leaves the host as it is. -/
theorem sees_findFrom (d : Document) (offset floor : Int) (snippets : Entries Expansion) :
    (findFrom offset floor snippets).Sees d (standing? d offset floor snippets) := by
  induction snippets with
  | nil => exact Edit.sees_pure d none
  | cons entry rest ih =>
    obtain ⟨trigger, expansion⟩ := entry
    have hskip (h : ¬Stands d offset floor trigger) :
        standing? d offset floor ((trigger, expansion) :: rest) =
          standing? d offset floor rest := by
      simp [standing?, h]
    rw [findFrom]
    by_cases hlow : offset - trigger.length < floor
    · rw [if_pos hlow, hskip fun h => Int.not_lt.mpr h.1 hlow]
      exact ih
    · rw [if_neg hlow]
      refine (Host.sees_getRange d _ _).bind ?_
      by_cases hread : d.getRange (offset - trigger.length) offset = trigger
      · have hstands : Stands d offset floor trigger := ⟨Int.not_lt.mp hlow, hread⟩
        have hfound : standing? d offset floor ((trigger, expansion) :: rest) =
            some ⟨offset - trigger.length, trigger, expansion⟩ := by
          simp [standing?, hstands]
        rw [if_pos hread, hfound]
        exact Edit.sees_pure d _
      · rw [if_neg hread, hskip fun h => hread h.2]
        exact ih

/-- The search of whole texts starts at their beginning. -/
lemma sees_find_multiline (d : Document) (offset : Int) (snippets : Entries Expansion) :
    (find offset snippets true).Sees d (standing? d offset 0 snippets) :=
  (Edit.sees_pure d (0 : Int)).bind (sees_findFrom d offset 0 snippets)

/-- In the text the search stops at what ends the text before the offset. -/
lemma stands_natCast (hn : n ≤ d.text.length) (hfloor : 0 ≤ floor) :
    Stands d n floor trigger ↔ trigger <:+ d.text.take n ∧ floor ≤ n - trigger.length := by
  have hlen : (d.text.take n).length = n := List.length_take_of_le hn
  rw [Stands, and_comm, and_congr_left_iff]
  intro hlow
  rw [getRange_trigger hn (by omega), List.suffix_iff_eq_drop, hlen, eq_comm]

/-- Without a place before which it does not go back, that is all. -/
lemma stands_zero_iff (hn : n ≤ d.text.length) :
    Stands d n 0 trigger ↔ trigger <:+ d.text.take n := by
  rw [stands_natCast hn (Int.le_refl 0), and_iff_left_iff_imp]
  intro hends
  have hle := hends.length_le
  rw [List.length_take_of_le hn] at hle
  omega

/-- Before the text it stops at nothing. -/
lemma stands_of_neg (hoffset : offset < 0) (hfloor : 0 ≤ floor) :
    ¬Stands d offset floor trigger := by
  rintro ⟨hlow, -⟩
  omega

/-- Behind the text it stops only at an empty trigger: the range that is read is shorter than any
other. -/
lemma stands_of_gt (hoffset : (d.text.length : Int) < offset) :
    Stands d offset floor trigger ↔ trigger = [] ∧ floor ≤ offset := by
  have hclamp : d.clamp offset = d.text.length := by
    simp only [Document.clamp, Document.clampTo]
    omega
  constructor
  · rintro ⟨hlow, hread⟩
    have hlen := congrArg List.length hread
    simp only [Document.getRange, Document.clamp, Document.clampTo, List.length_drop,
      List.length_take] at hlen
    have htrigger : trigger = [] := List.eq_nil_of_length_eq_zero (by omega)
    subst htrigger
    exact ⟨rfl, by simpa using hlow⟩
  · rintro ⟨rfl, hlow⟩
    refine ⟨by simpa using hlow, ?_⟩
    simp [Document.getRange, hclamp]

/-- So it stops in the text, or at an empty trigger. -/
lemma Stands.within (h : Stands d offset floor trigger) (hfloor : 0 ≤ floor) :
    (∃ n : Nat, offset = n ∧ n ≤ d.text.length) ∨ trigger = [] := by
  rcases Int.lt_or_le offset 0 with hneg | hpos
  · exact absurd h (stands_of_neg hneg hfloor)
  obtain ⟨n, rfl⟩ := Int.eq_ofNat_of_zero_le hpos
  rcases Nat.lt_or_ge d.text.length n with hgt | hn
  · right
    exact ((stands_of_gt (Int.ofNat_lt.mpr hgt)).mp h).1
  · left
    exact ⟨n, rfl, hn⟩

/-! ## The first entry -/

/-- The first of the entries of a table whose trigger ends a text. -/
structure IsFirst (before : Text) (snippets : Entries Expansion) (e : Text × Expansion) : Prop where
  ends : e.1 <:+ before
  first : ∃ earlier later, snippets = earlier ++ e :: later ∧ ∀ e' ∈ earlier, ¬e'.1 <:+ before

/-- The first entry is one of the table. -/
lemma IsFirst.mem {before : Text} {snippets : Entries Expansion} {e : Text × Expansion}
    (h : IsFirst before snippets e) : e ∈ snippets := by
  obtain ⟨earlier, later, rfl, -⟩ := h.first
  exact List.mem_append_right _ List.mem_cons_self

/-- The search stops at the first entry. -/
lemma IsFirst.standing?_eq {snippets : Entries Expansion} {e : Text × Expansion}
    (h : IsFirst (d.text.take n) snippets e) (hn : n ≤ d.text.length) :
    standing? d n 0 snippets = some ⟨(n - e.1.length : Nat), e.1, e.2⟩ := by
  have hle := h.ends.length_le
  rw [List.length_take_of_le hn] at hle
  obtain ⟨earlier, later, rfl, hearlier⟩ := h.first
  have hfind : List.find? (fun e => decide (Stands d n 0 e.1)) (earlier ++ e :: later) =
      some e := by
    refine List.find?_eq_some_iff_append.mpr
      ⟨decide_eq_true ((stands_zero_iff hn).mpr h.ends), earlier, later, rfl, ?_⟩
    intro e' he'
    simpa [stands_zero_iff hn] using hearlier e' he'
  have hstart : ((n : Int) - e.1.length) = (n - e.1.length : Nat) := by omega
  rw [standing?, hfind, Option.map_some, hstart]

/-- Where no trigger ends the text, and outside the text, it stops at none that is not empty. -/
lemma standing?_eq_none {snippets : Entries Expansion} (hne : ∀ e ∈ snippets, e.1 ≠ [])
    (h : offset < 0 ∨ d.text.length < offset ∨ ∀ e ∈ snippets, ¬e.1 <:+ d.text.take offset.toNat) :
    standing? d offset 0 snippets = none := by
  rw [standing?, Option.map_eq_none_iff, List.find?_eq_none]
  intro e he
  rw [decide_eq_true_eq]
  intro hstands
  rcases hstands.within (Int.le_refl 0) with ⟨n, rfl, hn⟩ | hempty
  · rcases h with h | h | h
    · omega
    · omega
    · exact h e he ((stands_zero_iff hn).mp hstands)
  · exact hne e he hempty

/-! ## Expanding it -/

/-- What an expansion makes of a host that refuses nothing, with the calls that it makes. -/
lemma run_expand {h : Host} (hr : h.refusal = none) (offset : Int) (m : Match) :
    expand offset m h =
      .ok () { h with
        document := h.document.afterMatch offset (some m)
        calls := h.calls ++ [.replaceRange m.start offset m.snippet.expansion.text,
          .setCursor (m.start + m.snippet.expansion.text.length - m.snippet.expansion.cursorBack)]
        log := h.log ++ [.expanded m.snippet.trigger m.start] } := by
  obtain ⟨d, refusal, calls, log⟩ := h
  subst hr
  simp [expand, Host.replaceRange, Host.setCursor, Host.note, Host.keep, Host.attempt, Host.change,
    Document.afterMatch, bind, EStateM.bind]

/-- Trying a trigger where one is found expands it. -/
lemma run_tryTrigger_some {h : Host} {snippets : Entries Expansion} {multiline : Bool} {m : Match}
    (hh : h.Holds d) (hfind : (find offset snippets multiline).Sees d (some m)) :
    tryTrigger offset snippets multiline h =
      .ok (some m.snippet) { h with
        document := d.afterMatch offset (some m)
        calls := h.calls ++ [.replaceRange m.start offset m.snippet.expansion.text,
          .setCursor (m.start + m.snippet.expansion.text.length - m.snippet.expansion.cursorBack)]
        log := h.log ++ [.expanded m.snippet.trigger m.start] } := by
  rw [tryTrigger, hfind.run_bind hh]
  show EStateM.bind _ _ _ = _
  rw [EStateM.bind, run_expand hh.refusal, hh.document]
  rfl

/-- Trying a trigger where none is found leaves the host as it is. -/
lemma sees_tryTrigger_none {snippets : Entries Expansion} {multiline : Bool}
    (hfind : (find offset snippets multiline).Sees d none) :
    (tryTrigger offset snippets multiline).Sees d none := hfind.bind (Edit.sees_pure d none)

/-- **Triggers are found where they end, and nowhere else.** In a text the first entry whose
trigger ends what stands before the offset is found, where that trigger starts; its expansion
takes its place, and the cursor goes to a place in it, wherever it was before. Outside the text,
and where no trigger ends, nothing is found and the host is left as it is, without a call that
changes it. -/
theorem tryTrigger_anchored {h : Host} (hr : h.refusal = none) {snippets : Entries Expansion}
    (hne : ∀ e ∈ snippets, e.1 ≠ []) (hc : Entries.Compiled snippets) (offset : Int) :
    (∀ (n : Nat) (trigger : Text) (e : Expansion), offset = n → n ≤ h.document.text.length →
      IsFirst (h.document.text.take n) snippets (trigger, e) →
      ∃ start cursor : Nat, start + trigger.length = n ∧
        (cursor : Int) = start + e.text.length - e.cursorBack ∧
        start ≤ cursor ∧ cursor ≤ start + e.text.length ∧
        find offset snippets true h = .ok (some ⟨start, trigger, e⟩) h ∧
        tryTrigger offset snippets true h =
          .ok (some ⟨trigger, e⟩) { h with
            document :=
              { h.document with
                text := h.document.text.take start ++ e.text ++ h.document.text.drop n, cursor }
            calls := h.calls ++ [.replaceRange start n e.text, .setCursor cursor]
            log := h.log ++ [.expanded trigger start] }) ∧
    (offset < 0 ∨ h.document.text.length < offset ∨
        (∀ e ∈ snippets, ¬e.1 <:+ h.document.text.take offset.toNat) →
      find offset snippets true h = .ok none h ∧
      tryTrigger offset snippets true h = .ok none h) := by
  have hh : h.Holds h.document := ⟨rfl, hr⟩
  have hfind := sees_find_multiline h.document offset snippets
  refine ⟨?found, fun hnone => ?none⟩
  case none =>
    rw [standing?_eq_none hne hnone] at hfind
    exact ⟨hfind h hh, sees_tryTrigger_none hfind h hh⟩
  case found =>
    rintro n trigger e rfl hn hfirst
    have hplaced : e.Placed := hc.placed hfirst.mem
    obtain ⟨hback, hrests⟩ := hplaced
    have hle : trigger.length ≤ n := by
      have := hfirst.ends.length_le
      rwa [List.length_take_of_le hn] at this
    rw [hfirst.standing?_eq hn] at hfind
    have hcursor : ((n - trigger.length + (e.text.length - e.cursorBack.toNat) : Nat) : Int) =
        (n - trigger.length : Nat) + e.text.length - e.cursorBack := by omega
    refine ⟨n - trigger.length, n - trigger.length + (e.text.length - e.cursorBack.toNat), by omega,
      hcursor, by omega, by omega, hfind h hh, ?_⟩
    have hdocument :=
      Document.setCursor_replaceRange (d := h.document) (Nat.sub_le n trigger.length) hn
      ⟨hback, hrests⟩
    rw [run_tryTrigger_some hh hfind, hcursor]
    simp only [Document.afterMatch, hdocument]
    rfl

/-- A table with two triggers of which one ends the other, tried in the middle of a text with the
cursor somewhere else. -/
theorem tryTrigger_anchored_middle :
    ∃ (h : Host) (snippets : Entries Expansion),
      h.refusal = none ∧ (∀ e ∈ snippets, e.1 ≠ []) ∧ Entries.Compiled snippets ∧
        h.document = { text := "a::b".toList, cursor := 0 } ∧
        tryTrigger 3 snippets true h =
          .ok (some ⟨"::".toList, Escape.compile "<%\\e>".toList⟩) { h with
            document := { text := "a<>b".toList, cursor := 2 }
            calls := [.replaceRange 1 3 "<>".toList, .setCursor 2]
            log := [.expanded "::".toList 1] } ∧
        tryTrigger 5 snippets true h = .ok none h := by
  let snippets : Entries Expansion :=
    [("::".toList, Escape.compile "<%\\e>".toList), (":".toList, Escape.compile "-".toList)]
  let h : Host := { document := { text := "a::b".toList, cursor := 0 } }
  have hne : ∀ e ∈ snippets, e.1 ≠ [] := by decide
  have hc : Entries.Compiled snippets := by
    intro e he
    rcases List.mem_cons.mp he with rfl | he
    · exact ⟨_, rfl⟩
    · exact ⟨_, by rw [List.mem_singleton.mp he]⟩
  have hfirst : IsFirst (h.document.text.take 3) snippets
      ("::".toList, Escape.compile "<%\\e>".toList) :=
    ⟨⟨"a".toList, rfl⟩, [], _, rfl, by simp⟩
  obtain ⟨start, cursor, hstart, hcursor, -, -, -, htry⟩ :=
    (tryTrigger_anchored (h := h) rfl hne hc 3).1 3 _ _ rfl (by decide) hfirst
  have houtside := (tryTrigger_anchored (h := h) rfl hne hc 5).2 (.inr (.inl (by decide)))
  have hstart' : start = 1 := by
    have : ("::".toList).length = 2 := rfl
    omega
  subst hstart'
  have hcursor' : cursor = 2 := by
    have : (Escape.compile "<%\\e>".toList).text.length = 2 := by decide
    have : (Escape.compile "<%\\e>".toList).cursorBack = 1 := by decide
    omega
  subst hcursor'
  exact ⟨h, snippets, rfl, hne, hc, rfl, htry, houtside.2⟩

end Shorthand.Match
