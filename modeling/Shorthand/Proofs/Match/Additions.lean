import Shorthand.Match
import Shorthand.Proofs.Host.Turns
import Shorthand.Proofs.Source.Appending

set_option autoImplicit false
set_option relaxedAutoImplicit false

/-!
# Snippets added at the end

The search goes through a table from its beginning and takes the first trigger that it can. A
table that was updated has its old triggers at its beginning, in their old order, so what was
found before is found again: the search does not even get as far as the new ones. It makes no
difference which triggers end which, where the document comes from, or whether its editor refuses
a call later on.

## Main results

* `Shorthand.Match.findFrom_extended` — new expansions and further entries do not change which
  trigger is found.
* `Shorthand.Match.find_append` — adding snippets at the end of a source steals no trigger.
-/

namespace Shorthand.Match

open Source Text

variable {offset floor : Int} {multiline : Bool} {snippets old : Entries Expansion} {h h' : Host}
    {m : Match}

/-! ## Updated tables -/

/-- **New expansions and further entries do not change which trigger is found,** nor the calls
that it takes.

**Proof sketch.** Induction on the entries. For each of them the same range is read, and the
search stops or goes on alike, because only the trigger is compared. -/
theorem findFrom_extended (f : Text × Expansion → Expansion) (more : Entries Expansion)
    (hrun : findFrom offset floor snippets h = .ok (some m) h') :
    findFrom offset floor (snippets.map (fun e => (e.1, f e)) ++ more) h =
      .ok (some ⟨m.start, m.snippet.trigger, f (m.snippet.trigger, m.snippet.expansion)⟩) h' := by
  induction snippets generalizing h with
  | nil =>
    rw [findFrom] at hrun
    exact nomatch hrun
  | cons entry rest ih =>
    obtain ⟨trigger, expansion⟩ := entry
    rw [List.map_cons, List.cons_append, findFrom]
    rw [findFrom] at hrun
    by_cases hlow : offset - trigger.length < floor
    · rw [if_pos hlow] at hrun ⊢
      exact ih hrun
    · rw [if_neg hlow] at hrun ⊢
      obtain ⟨range, h₁, hread, hrun⟩ := Edit.bind_eq_ok.mp hrun
      apply Edit.bind_eq_ok.mpr
      refine ⟨range, h₁, hread, ?_⟩
      by_cases hrange : range = trigger
      · rw [if_pos hrange] at hrun ⊢
        cases hrun
        rfl
      · rw [if_neg hrange] at hrun ⊢
        exact ih hrun

/-- What is found in a table is found in the table after an update, with its expansion there. -/
lemma find_updated (hrun : find offset old multiline h = .ok (some m) h')
    (new : Entries Expansion) :
    find offset (Entries.updated old new) multiline h =
      .ok (some ⟨m.start, m.snippet.trigger,
        (Entries.find? new m.snippet.trigger).getD m.snippet.expansion⟩) h' := by
  obtain ⟨floor, h₁, hfloor, hrun⟩ := Edit.bind_eq_ok.mp hrun
  apply Edit.bind_eq_ok.mpr
  refine ⟨floor, h₁, hfloor, ?_⟩
  exact findFrom_extended (fun e => (Entries.find? new e.1).getD e.2) _ hrun

/-! ## Continued sources -/

/-- **Adding snippets at the end of a source steals no trigger.** Where a trigger of the first
source is found, the same one is found at the same place when the source is continued, with the
expansion that the second source gives it, if it does. Malformed records of the second source make
no difference to the table, and if it defines nothing there is none at all.

**Proof sketch.** The table of the continued source is that of the first one, updated with that of
the second (`Source.textReading_append`). It begins with the triggers of the first source in their
order, so the search goes through the same triggers as before (`findFrom_extended`). -/
theorem find_append {between parts first : Text} (hb : between ≠ []) (hp : parts ≠ [])
    (hend : EndsPiece (Divider.resolved between) first) (second : Text) :
    ∃ r₁ r₂ r, parse (.text between) (.text parts) first = .ok r₁ ∧
      parse (.text between) (.text parts) second = .ok r₂ ∧
      parse (.text between) (.text parts) (first ++ Divider.resolved between ++ second) = .ok r ∧
      (∀ (h h' : Host) (offset : Int) (multiline : Bool) (start : Int) (trigger : Text)
          (e : Expansion),
        find offset r₁.snippets multiline h = .ok (some ⟨start, trigger, e⟩) h' →
        find offset r.snippets multiline h =
          .ok (some ⟨start, trigger, (Entries.find? r₂.snippets trigger).getD e⟩) h') ∧
      (∃ r', parse (.text between) (.text parts)
          (first ++ Divider.resolved between ++ withoutMalformed between parts second) = .ok r' ∧
        r'.snippets = r.snippets) ∧
      (r₂.snippets = [] → r.snippets = r₁.snippets) := by
  have hsnippets (source : Text) :
      (textReading between parts (first ++ Divider.resolved between ++ source)).snippets =
        Entries.updated (textReading between parts first).snippets
          (textReading between parts source).snippets := by
    rw [textReading_append hb hend]
  refine ⟨_, _, _, parse_text hb hp first, parse_text hb hp second, parse_text hb hp _, ?found,
    ⟨_, parse_text hb hp _, ?malformed⟩, ?undefined⟩
  case found =>
    intro h h' offset multiline start trigger e hrun
    rw [hsnippets]
    exact find_updated hrun _
  case malformed => rw [hsnippets, hsnippets, snippets_withoutMalformed hb]
  case undefined =>
    intro hnone
    rw [hsnippets, hnone, Entries.updated_nil]

/-- A longer trigger that the first one ends, a malformed record, and a new expansion for the
first trigger. -/
theorem find_append_longer :
    let first := "b=1".toList
    let second := "ab=2\nx\nb=3".toList
    let h : Host := { document := { text := "ab".toList, cursor := 2 } }
    withoutMalformed Divider.newlineMark ['='] second = "ab=2\nb=3".toList ∧
      ∃ r₁ r r', parse (.text Divider.newlineMark) (.text ['=']) first = .ok r₁ ∧
        parse (.text Divider.newlineMark) (.text ['=']) (first ++ ['\n'] ++ second) = .ok r ∧
        parse (.text Divider.newlineMark) (.text ['=']) (first ++ ['\n'] ++ "ab=2\nb=3".toList) =
          .ok r' ∧
        Entries.keys r.snippets = [['b'], "ab".toList] ∧ r'.snippets = r.snippets ∧
        find 2 r₁.snippets true h = .ok (some ⟨1, ['b'], Escape.compile ['1']⟩) h ∧
        find 2 r.snippets true h = .ok (some ⟨1, ['b'], Escape.compile ['3']⟩) h := by
  intro first second h
  have hb : Divider.newlineMark ≠ [] := by decide
  have hp : ['='] ≠ [] := by decide
  have hwithout : withoutMalformed Divider.newlineMark ['='] second = "ab=2\nb=3".toList := by
    decide
  have hend : EndsPiece (Divider.resolved Divider.newlineMark) first :=
    endsPiece_singleton '\n' first
  obtain ⟨r₁, r₂, r, hfirst, hsecond, hparse, hfound, ⟨r', hparse', hsame⟩, -⟩ :=
    find_append hb hp hend second
  have h₁ : r₁ = ⟨[(['b'], Escape.compile ['1'])], []⟩ := Except.ok.inj (hfirst.symm.trans (by rfl))
  have h₂ : r₂ = ⟨[("ab".toList, Escape.compile ['2']), (['b'], Escape.compile ['3'])],
      [⟨1, ['x'], .missingDivider (.text ['='])⟩]⟩ := Except.ok.inj (hsecond.symm.trans (by rfl))
  have hkeys : Entries.keys r.snippets = [['b'], "ab".toList] := by
    have hr := Except.ok.inj (hparse.symm.trans (by rfl))
    rw [hr]
    rfl
  rw [hwithout] at hparse'
  have hrun : find 2 r₁.snippets true h = .ok (some ⟨1, ['b'], Escape.compile ['1']⟩) h := by
    rw [h₁]
    rfl
  have hrun' := hfound h h 2 true _ _ _ hrun
  rw [h₂] at hrun'
  exact ⟨hwithout, r₁, r, r', hfirst, hparse, hparse', hkeys, hsame, hrun, hrun'⟩

end Shorthand.Match
