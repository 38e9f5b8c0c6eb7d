import Shorthand.Proofs.Keyboard.Press

set_option autoImplicit false
set_option relaxedAutoImplicit false

/-!
# Presses that expand nothing

A press that expands nothing is invisible. Whichever channel looked for a trigger, and whatever it
did meanwhile, the document is what the host alone would have made of it.

## Main results

* `Shorthand.Keyboard.press_idle` — a press that no channel takes.
* `Shorthand.Keyboard.press_of_nothing_expanded` — a press that expands nothing.
-/

namespace Shorthand.Keyboard

variable {d : Document} {dispatcher : Dispatcher} {h : Host} {p : KeyPress}

/-- A press goes to the channel of its own key. -/
lemma ofName?_of_route {k : Key} (hroute : dispatcher.route p = some k) :
    Key.ofName? p.key = some k := by
  unfold Dispatcher.route at hroute
  split at hroute
  · exact nomatch hroute
  · exact (Option.filter_eq_some_iff.mp hroute).1

/-- A dispatcher whose channels are all disabled takes no press. -/
lemma route_of_disabled (hidle : ∀ k, (dispatcher.channel k).mode = .disabled) (p : KeyPress) :
    dispatcher.route p = none := by
  cases hroute : dispatcher.route p with
  | none => rfl
  | some k =>
    unfold Dispatcher.route at hroute
    split at hroute
    · exact hroute.symm
    · have henabled := (Option.filter_eq_some_iff.mp hroute).2
      simp [Channel.isEnabled, hidle k] at henabled

/-- **A press that no channel takes** leaves what the host does by itself. -/
theorem press_idle (hroute : dispatcher.route p = none) (t : Table) (hd : d.Valid)
    (hh : h.Holds d) :
    ∃ h', press dispatcher t p h = (.ok {}, dispatcher, h') ∧ h'.Holds (d.byDefault p.key) := by
  cases hk : Key.ofName? p.key with
  | some k => exact press_of_not_routed hroute (turns_before hd hk) (turns_after hd hk) hh
  | none =>
    have hbefore : (before p.key).Turns d () d := by
      unfold before
      rw [hk]
      exact Host.turns_note d _
    have hafter : (after p.key).Turns d () (d.byDefault p.key) := by
      unfold after Document.byDefault
      rw [hk]
      exact Edit.turns_pure d ()
    exact press_of_not_routed hroute hbefore hafter hh

/-- **A press that a channel takes** comes to its end, and when nothing was expanded it leaves
what the host does by itself. -/
theorem press_routed {k : Key} (hroute : dispatcher.route p = some k) (t : Table) (hd : d.Valid)
    (hh : h.Holds d) :
    ∃ found dispatcher' h', press dispatcher t p h = (.ok ⟨true, found⟩, dispatcher', h') ∧
      (found = none → h'.Holds (d.byDefault p.key)) := by
  have hk := ofName?_of_route hroute
  obtain ⟨d', hedit, hnone⟩ := turns_keyEdit (dispatcher.channel k) k hd t.snippets
    dispatcher.multiline
  cases hm : d.match? t.snippets dispatcher.multiline with
  | none =>
    rw [hm, hnone hm] at hedit
    obtain ⟨h', hpress, hh'⟩ :=
      press_of_turns (t := t) hroute (turns_before hd hk) hedit (turns_after hd hk) hh
    exact ⟨none, _, h', hpress, fun _ => hh'⟩
  | some m =>
    rw [hm] at hedit
    obtain ⟨d₃, hafter⟩ := exists_turns_after p.key d'
    obtain ⟨h', hpress, -⟩ := press_of_turns (t := t) hroute (turns_before hd hk) hedit hafter hh
    exact ⟨some m.snippet, _, h', hpress, fun hfound => nomatch hfound⟩

/-- **A press that expands nothing is invisible.** On a host that refuses nothing every press
comes to its end; when its result has no snippet, it leaves the document that the host makes by
itself. That is also what the press leaves when all channels are disabled.

**Proof sketch.** A press that no channel takes leaves the host alone. The channel of the space
changes nothing when it finds nothing; that of Tab takes the indentation of the host back and puts
it in again; that of Enter puts the cursor where it is. -/
theorem press_of_nothing_expanded (dispatcher : Dispatcher) (t : Table) (p : KeyPress)
    (hd : d.Valid) (hh : h.Holds d) :
    ∃ result dispatcher' h', press dispatcher t p h = (.ok result, dispatcher', h') ∧
      (result.snippet = none → h'.document = d.byDefault p.key) ∧
      ∀ idle : Dispatcher, (∀ k, (idle.channel k).mode = .disabled) →
        ∃ h₀, press idle t p h = (.ok {}, idle, h₀) ∧ h₀.document = d.byDefault p.key := by
  have hidle : ∀ idle : Dispatcher, (∀ k, (idle.channel k).mode = .disabled) →
      ∃ h₀, press idle t p h = (.ok {}, idle, h₀) ∧ h₀.document = d.byDefault p.key := by
    intro idle hmodes
    obtain ⟨h₀, hpress, hh₀⟩ := press_idle (route_of_disabled hmodes p) t hd hh
    exact ⟨h₀, hpress, hh₀.document⟩
  cases hroute : dispatcher.route p with
  | none =>
    obtain ⟨h', hpress, hh'⟩ := press_idle hroute t hd hh
    exact ⟨{}, dispatcher, h', hpress, fun _ => hh'.document, hidle⟩
  | some k =>
    obtain ⟨found, dispatcher', h', hpress, hdocument⟩ := press_routed hroute t hd hh
    exact ⟨⟨true, found⟩, dispatcher', h', hpress, fun hf => (hdocument hf).document, hidle⟩

/-- Tab behind an indentation, with a table that has nothing for the line: one more indentation is
all that comes of it. -/
theorem press_of_nothing_expanded_tab :
    let h : Host := { document := { text := "\ta".toList, cursor := 1 } }
    let t : Table := { snippets := [("a".toList, { text := "b".toList })] }
    let dispatcher : Dispatcher := { tab := { mode := .enabled } }
    ∃ result dispatcher' h', press dispatcher t { key := Key.tab.name } h =
        (.ok result, dispatcher', h') ∧
      result.snippet = none ∧ h'.document = { text := "\t\ta".toList, cursor := 2 } := by
  intro h t dispatcher
  obtain ⟨result, dispatcher', h', hpress, hdocument, -⟩ :=
    press_of_nothing_expanded (d := h.document) dispatcher t { key := Key.tab.name }
      (by decide : 1 ≤ 2) ⟨rfl, rfl⟩
  have hsnippet : (press dispatcher t { key := Key.tab.name } h).1.toOption.map (·.snippet) =
      some none := by decide +kernel
  rw [hpress] at hsnippet
  have hnone : result.snippet = none := Option.some.inj hsnippet
  exact ⟨result, dispatcher', h', hpress, hnone, hdocument hnone⟩

end Shorthand.Keyboard
