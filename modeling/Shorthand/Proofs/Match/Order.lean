import Mathlib.Data.List.Nodup
import Shorthand.Proofs.Match.OneLine
import Shorthand.Settings.Basic

set_option autoImplicit false
set_option relaxedAutoImplicit false

/-!
# The order of a table

The search takes the first entry that it can, so the order of a table counts where it could stop
at two of them. All triggers at which it can stop for one offset end the same text, so of two of
them one ends the other; and where it can stop at a trigger it can stop at everything that ends
that trigger. So an entry hides the later ones whose triggers it ends, everywhere, and no others.

## Main definitions

* `Shorthand.Match.leastStart` — the place before which the search does not go back.
* `Shorthand.Match.Fires` — a snippet is expanded somewhere in some document.

## Main results

* `Shorthand.Match.Stands.of_suffix` — where the search can stop, it can stop at every end of the
  trigger.
* `Shorthand.Match.Stands.suffix_or_suffix` — of two triggers at which it can stop, one ends the
  other.
* `Shorthand.Match.fires_iff` — which entries of a table can ever be expanded.
* `Shorthand.Match.find_of_perm` — what is found in any order of a table whose triggers do not end
  one another.
-/

namespace Shorthand.Match

variable {d : Document} {offset floor : Int} {trigger other : Text} {multiline : Bool}
  {snippets : Entries Expansion} {j : Nat}

/-! ## Where the search can stop -/

/-- The place before which the search does not go back: the start of the text, or that of the
line. -/
def leastStart (d : Document) (offset : Int) (multiline : Bool) : Nat :=
  if multiline then 0 else lineStart d offset

/-- The search stops at the first entry that does not start before that. -/
lemma sees_find (d : Document) (offset : Int) (snippets : Entries Expansion) (multiline : Bool) :
    (find offset snippets multiline).Sees d
      (standing? d offset (leastStart d offset multiline) snippets) := by
  cases multiline with
  | true => exact sees_find_multiline d offset snippets
  | false => exact sees_find_line d offset snippets

/-- Only the line breaks of a trigger make a difference between the two places. -/
lemma stands_leastStart_iff :
    Stands d offset (leastStart d offset multiline) trigger ↔
      (multiline = false → '\n' ∉ trigger) ∧ Stands d offset 0 trigger := by
  cases multiline with
  | true => simp [leastStart]
  | false => simpa [leastStart] using stands_lineStart_iff d offset trigger

/-- **Where the search can stop at a trigger, it can stop at every text that ends the trigger.** -/
theorem Stands.of_suffix (h : Stands d offset floor trigger) (hfloor : 0 ≤ floor)
    (hs : other <:+ trigger) : Stands d offset floor other := by
  rcases h.within hfloor with ⟨n, rfl, hn⟩ | rfl
  · rw [stands_natCast hn hfloor] at h ⊢
    obtain ⟨hends, hlow⟩ := h
    have hle := hs.length_le
    exact ⟨hs.trans hends, by omega⟩
  · rw [List.suffix_nil.mp hs]
    exact h

/-- **Of two triggers at which the search can stop, one ends the other:** both end the same text. -/
theorem Stands.suffix_or_suffix (h : Stands d offset floor trigger)
    (h' : Stands d offset floor other) (hfloor : 0 ≤ floor) :
    trigger <:+ other ∨ other <:+ trigger := by
  rcases h.within hfloor with ⟨n, rfl, hn⟩ | rfl
  · have hends := ((stands_natCast hn hfloor).mp h).1
    have hends' := ((stands_natCast hn hfloor).mp h').1
    exact List.suffix_or_suffix_of_suffix hends hends'
  · left
    exact List.nil_suffix

/-- At the end of a document the search can stop at what ends its text. -/
lemma stands_end_iff (text : Text) :
    Stands (Document.new text none) text.length 0 trigger ↔ trigger <:+ text := by
  have htake : (Document.new text none).text.take text.length = text := List.take_length
  have hlen : text.length ≤ (Document.new text none).text.length := Nat.le_refl _
  rw [stands_zero_iff hlen, htake]

/-! ## Which entries can be expanded -/

/-- An entry of a list without repetitions is the first with a property when it has it and no
entry before it does. -/
lemma find?_eq_getElem?_iff {α : Type} {p : α → Bool} {xs : List α} {x : α} (hxs : xs.Nodup)
    (hj : xs[j]? = some x) : xs.find? p = some x ↔ p x ∧ ∀ y ∈ xs.take j, ¬p y := by
  obtain ⟨hlt, hx⟩ := List.getElem?_eq_some_iff.mp hj
  rw [List.find?_eq_some_iff_getElem, and_congr_right_iff]
  intro _
  constructor
  · rintro ⟨i, hi, hxi, hearlier⟩ y hy
    obtain rfl : i = j := hxs.getElem_inj_iff.mp (hxi.trans hx.symm)
    obtain ⟨k, hk, rfl⟩ := List.mem_take_iff_getElem.mp hy
    simpa using hearlier k (by omega)
  · intro hearlier
    refine ⟨j, hlt, hx, fun k hk => ?_⟩
    simpa using hearlier xs[k] (List.mem_take_iff_getElem.mpr ⟨k, by omega, rfl⟩)

/-- The entry at a place of a table is where the search stops when it can stop there and at none
before it. -/
lemma standing?_snippet_iff (hdistinct : (Entries.keys snippets).Nodup) {e : Expansion}
    (hj : snippets[j]? = some (trigger, e)) :
    (standing? d offset floor snippets).map (·.snippet) = some ⟨trigger, e⟩ ↔
      Stands d offset floor trigger ∧
      ∀ earlier ∈ snippets.take j, ¬Stands d offset floor earlier.1 := by
  have hfirst := find?_eq_getElem?_iff (p := fun e => decide (Stands d offset floor e.1))
    (List.Nodup.of_map _ hdistinct) hj
  simp only [decide_eq_true_eq] at hfirst
  rw [← hfirst, standing?, Option.map_map, Option.map_eq_some_iff]
  constructor
  · rintro ⟨found, hfound, heq⟩
    obtain ⟨rfl, rfl⟩ := Snippet.mk.inj heq
    exact hfound
  · intro hfound
    exact ⟨_, hfound, rfl⟩

/-- Somewhere in some document a snippet of the table is expanded. -/
def Fires (snippets : Entries Expansion) (multiline : Bool) (s : Snippet) : Prop :=
  ∃ (h : Host) (offset : Int), h.refusal = none ∧ h.document.Valid ∧
    ∃ h', tryTrigger offset snippets multiline h = .ok (some s) h'

/-- It is expanded where the search stops at it. -/
lemma fires_iff_standing {s : Snippet} :
    Fires snippets multiline s ↔ ∃ (d : Document) (offset : Int), d.Valid ∧
      (standing? d offset (leastStart d offset multiline) snippets).map (·.snippet) = some s := by
  constructor
  · rintro ⟨h, offset, hr, hvalid, h', hrun⟩
    have hfind := sees_find h.document offset snippets multiline
    obtain ⟨h₁, hrun₁, -⟩ := exists_run_tryTrigger ⟨rfl, hr⟩ hfind hfind
    have heq := hrun₁.symm.trans hrun
    rw [EStateM.Result.ok.injEq] at heq
    exact ⟨h.document, offset, hvalid, heq.1⟩
  · rintro ⟨d, offset, hvalid, hfound⟩
    have hfind := sees_find d offset snippets multiline
    obtain ⟨h', hrun, -⟩ := exists_run_tryTrigger (h := { document := d }) ⟨rfl, rfl⟩ hfind hfind
    rw [hfound] at hrun
    exact ⟨{ document := d }, offset, rfl, hvalid, h', hrun⟩

/-- **Which entries of a table can ever be expanded:** those whose triggers no trigger before them
ends, and, when triggers may not span lines, that have no line break. All others are dead, in
every document and at every offset.

**Proof sketch.** Where the search can stop at a trigger, it can stop at every text that ends it
(`Stands.of_suffix`), so an entry before it whose trigger ends it is taken in its place. If there
is none, the document that holds nothing but the trigger is a place where it is the first. -/
theorem fires_iff (hdistinct : (Entries.keys snippets).Nodup) {e : Expansion}
    (hj : snippets[j]? = some (trigger, e)) (multiline : Bool) :
    Fires snippets multiline ⟨trigger, e⟩ ↔
      (∀ earlier ∈ snippets.take j, ¬earlier.1 <:+ trigger) ∧
        (multiline = false → '\n' ∉ trigger) := by
  rw [fires_iff_standing]
  constructor
  · rintro ⟨d, offset, -, hfound⟩
    obtain ⟨hstands, hearlier⟩ := (standing?_snippet_iff hdistinct hj).mp hfound
    refine ⟨fun earlier hmem hs => ?_, (stands_leastStart_iff.mp hstands).1⟩
    exact hearlier earlier hmem (hstands.of_suffix (Int.natCast_nonneg _) hs)
  · rintro ⟨hearlier, hline⟩
    refine ⟨Document.new trigger none, trigger.length, Document.valid_new _ _ _, ?_⟩
    refine (standing?_snippet_iff hdistinct hj).mpr ⟨?_, fun earlier hmem hstands => ?_⟩
    · exact stands_leastStart_iff.mpr
        ⟨hline, (stands_end_iff trigger).mpr (List.suffix_refl trigger)⟩
    · have hends := (stands_end_iff trigger).mp (stands_leastStart_iff.mp hstands).2
      exact hearlier earlier hmem hends

/-- In the table that the program starts with only the last entry is dead, hidden by the one
before it. -/
theorem fires_iff_default :
    let s : SnippetSettings := {}
    ∃ r, (Source.parseValues s.source s.recordDivider s.partDivider).2 = .ok r ∧
      Entries.keys r.snippets = ["asd".toList, "-".toList, ":".toList, "::".toList] ∧
      ∀ e ∈ r.snippets, ∀ multiline, Fires r.snippets multiline ⟨e.1, e.2⟩ ↔ e.1 ≠ "::".toList := by
  intro s
  let r : Source.Reading :=
    { snippets := [("asd".toList, Escape.compile "snipped ya".toList),
        ("-".toList, Escape.compile "#####".toList), (":".toList, Escape.compile "-".toList),
        ("::".toList, Escape.compile "hi".toList)] }
  have hdistinct : (Entries.keys r.snippets).Nodup := by decide
  have hline : ∀ e ∈ r.snippets, '\n' ∉ e.1 := by decide
  have hearlier : ∀ j : Fin r.snippets.length,
      (∀ earlier ∈ r.snippets.take j, ¬earlier.1 <:+ (r.snippets.get j).1) ↔
        (r.snippets.get j).1 ≠ "::".toList := by decide
  refine ⟨r, by rfl, by rfl, fun e he multiline => ?_⟩
  obtain ⟨j, rfl⟩ := List.mem_iff_get.mp he
  have hj : r.snippets[(j : Nat)]? = some (r.snippets.get j) := List.getElem?_eq_getElem j.isLt
  rw [fires_iff hdistinct hj, hearlier, and_iff_left_iff_imp]
  intro _ _
  exact hline _ he

/-! ## Any order -/

/-- The first entry with a property is the same in any order when no two entries have it. -/
lemma find?_eq_of_perm {α : Type} {p : α → Bool} {xs ys : List α} (hperm : xs.Perm ys)
    (hunique : ∀ x ∈ xs, ∀ y ∈ xs, p x → p y → x = y) : xs.find? p = ys.find? p := by
  cases hx : xs.find? p with
  | none =>
    refine (List.find?_eq_none.mpr fun y hy => ?_).symm
    exact List.find?_eq_none.mp hx y (hperm.mem_iff.mpr hy)
  | some x =>
    have hmem := List.mem_of_find?_eq_some hx
    cases hy : ys.find? p with
    | none => exact absurd (List.find?_some hx) (List.find?_eq_none.mp hy x (hperm.mem_iff.mp hmem))
    | some y =>
      have hmem' := hperm.mem_iff.mpr (List.mem_of_find?_eq_some hy)
      rw [hunique x hmem y hmem' (List.find?_some hx) (List.find?_some hy)]

/-- **The order of a table counts only between triggers of which one ends the other.** If there
are none, the same is found in any order, at every offset of every document.

**Proof sketch.** The search can stop at no two entries for the same offset, because their
triggers would end the same text and so one another (`Stands.suffix_or_suffix`). -/
theorem find_of_perm {permuted : Entries Expansion} (hdistinct : (Entries.keys snippets).Nodup)
    (hunrelated : ∀ e ∈ snippets, ∀ e' ∈ snippets, e.1 <:+ e'.1 → e.1 = e'.1)
    (hperm : snippets.Perm permuted) {h : Host} (hr : h.refusal = none) (offset : Int)
    (multiline : Bool) :
    ∃ found, find offset snippets multiline h = .ok found h ∧
      find offset permuted multiline h = .ok found h := by
  have hh : h.Holds h.document := ⟨rfl, hr⟩
  have hfound := sees_find h.document offset snippets multiline h hh
  have hpermuted := sees_find h.document offset permuted multiline h hh
  refine ⟨_, hfound, ?_⟩
  rw [hpermuted, standing?, standing?, find?_eq_of_perm hperm fun e he e' he' hs hs' => ?_]
  have hfloor : (0 : Int) ≤ leastStart h.document offset multiline := Int.natCast_nonneg _
  have hkeys : e.1 = e'.1 := by
    rcases (of_decide_eq_true hs).suffix_or_suffix (of_decide_eq_true hs') hfloor with hends | hends
    · exact hunrelated e he e' he' hends
    · exact (hunrelated e' he' e he hends).symm
  exact List.inj_on_of_nodup_map hdistinct he he' hkeys

/-- Triggers that share characters without one ending another, looked for on the second line in
one order and in the other. -/
theorem find_of_perm_reversed :
    ∃ (h : Host) (snippets : Entries Expansion), h.refusal = none ∧
      Entries.keys snippets = ["a:".toList, "b:".toList, "\nb".toList] ∧
      (∀ e ∈ snippets, ∀ e' ∈ snippets, e.1 <:+ e'.1 → e.1 = e'.1) ∧
      find 4 snippets false h = .ok (some ⟨2, "b:".toList, { text := "second".toList }⟩) h ∧
      find 4 snippets.reverse false h =
        .ok (some ⟨2, "b:".toList, { text := "second".toList }⟩) h := by
  let h : Host := { document := { text := "a\nb:".toList, cursor := 4 } }
  let snippets : Entries Expansion :=
    [("a:".toList, { text := "first".toList }), ("b:".toList, { text := "second".toList }),
      ("\nb".toList, { text := "third".toList })]
  have hdistinct : (Entries.keys snippets).Nodup := by decide
  have hunrelated : ∀ e ∈ snippets, ∀ e' ∈ snippets, e.1 <:+ e'.1 → e.1 = e'.1 := by decide
  obtain ⟨found, hfound, hreversed⟩ :=
    find_of_perm hdistinct hunrelated (List.reverse_perm snippets).symm (h := h) rfl 4 false
  have hrun : find 4 snippets false h =
      .ok (some ⟨2, "b:".toList, { text := "second".toList }⟩) h := rfl
  cases hfound.symm.trans hrun
  exact ⟨h, snippets, rfl, rfl, hunrelated, hfound, hreversed⟩

end Shorthand.Match
