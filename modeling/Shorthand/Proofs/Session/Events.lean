import Shorthand.Proofs.Session.Runs

set_option autoImplicit false
set_option relaxedAutoImplicit false

/-!
# What events do to the application

A handler may record an event, fail, or reload the table, which emits events again. None of that
touches the settings, the channels, the bus or the document. And the events come to an end unless
a handler that reloads the table listens to a reload.

## Main definitions

* `Shorthand.Session.Framed` — a state that differs from another one at most in what events may
  change.
* `Shorthand.Bus.Quiet` — the events of a reload come to an end.
* `Shorthand.Bus.Restless` — the events of a triggered snippet may never end.

## Main results

* `Shorthand.Session.leads_emit_each` — what an event does, handler by handler.
* `Shorthand.Session.keeps_reloadWith`, `Shorthand.Session.leads_emit_succ` — an invariant that is
  kept by the parts of a reload and of an event is kept by the whole.
* `Shorthand.Session.framed_emit` — what events leave alone.
* `Shorthand.Session.keeps_reload`, `Shorthand.Session.keeps_setup` — what a reload leaves alone.
* `Shorthand.Session.leads_emit_triggered` — the events of a triggered snippet end, if the bus is
  not restless.
-/

namespace Shorthand

/-- The names of the events of a reload. -/
def Event.reloadNames : List Text := ["snippets.parse_error".toList, "snippets.reloaded".toList]

/-- No handler reloads the table when it is reloaded, so the events of a reload come to an end. -/
def Bus.Quiet (b : Bus Hook) : Prop := ∀ name ∈ Event.reloadNames, Hook.reloading ∉ b.handlers name

/-- A handler reloads the table when a snippet is triggered, and one when the table is reloaded,
so the events of a snippet may never end. -/
def Bus.Restless (b : Bus Hook) : Prop :=
  Hook.reloading ∈ b.handlers "snippet.triggered".toList ∧
    ∃ name ∈ Event.reloadNames, Hook.reloading ∈ b.handlers name

namespace Session

/-- The state `s'` differs from `s` at most in the table, in what it was made from, in the events
that were recorded and in the log. -/
structure Framed (s s' : Session) : Prop where
  settings : s'.settings = s.settings
  dispatcher : s'.dispatcher = s.dispatcher
  bus : s'.bus = s.bus
  files : s'.files = s.files
  logging : s'.logging = s.logging
  document : s'.host.document = s.host.document
  refusal : s'.host.refusal = s.host.refusal
  calls : s'.host.calls = s.host.calls

/-- No change at all. -/
lemma Framed.refl (s : Session) : s.Framed s := ⟨rfl, rfl, rfl, rfl, rfl, rfl, rfl, rfl⟩

/-- One change after the other. -/
lemma Framed.trans {s₁ s₂ s₃ : Session} (h : s₁.Framed s₂) (h' : s₂.Framed s₃) : s₁.Framed s₃ :=
  ⟨h'.settings.trans h.settings, h'.dispatcher.trans h.dispatcher, h'.bus.trans h.bus,
    h'.files.trans h.files, h'.logging.trans h.logging, h'.document.trans h.document,
    h'.refusal.trans h.refusal, h'.calls.trans h.calls⟩

/-- A host that holds a document still holds it. -/
lemma Framed.holds {s s' : Session} (h : s.Framed s') {d : Document} (hd : s.host.Holds d) :
    s'.host.Holds d := ⟨h.document.trans hd.document, h.refusal.trans hd.refusal⟩

variable {s₀ : Session} {ends : Prop}

/-- Writing to the log leaves the rest alone. -/
lemma Framed.report {s : Session} (h : s₀.Framed s) (log : Log) : s₀.Framed (report log s) :=
  h.trans ⟨rfl, rfl, rfl, rfl, rfl, rfl, rfl, rfl⟩

/-- So does recording an event. -/
lemma Framed.record {s : Session} (h : s₀.Framed s) (e : Event) :
    s₀.Framed { s with events := s.events ++ [e] } :=
  h.trans ⟨rfl, rfl, rfl, rfl, rfl, rfl, rfl, rfl⟩

/-! ## Reloads -/

/-- The events of a reload have their names. -/
lemma name_mem_reloadNames {t : Table} {e : Event} (he : e ∈ reloadEvents t) :
    e.name ∈ Event.reloadNames := by
  rcases List.mem_append.mp he with he | he
  · obtain ⟨diagnostic, -, rfl⟩ := List.mem_map.mp he
    exact List.mem_cons_self
  · rw [List.mem_singleton.mp he]
    exact List.mem_cons_of_mem _ List.mem_cons_self

/-- What each of some events keeps is kept by all of them. -/
lemma leads_emitAll {I : Session → Prop} {emit : Event → Session → Option Session} :
    ∀ (es : List Event), (∀ e ∈ es, ∀ s, I s → Leads ends I (emit e s)) →
      ∀ s, I s → Leads ends I (emitAll emit es s)
  | [], _, s, hI => hI
  | e :: rest, hemit, s, hI => by
    rw [emitAll]
    refine (hemit e List.mem_cons_self s hI).bind fun s' hs' => ?_
    exact leads_emitAll rest (fun e' he => hemit e' (List.mem_cons_of_mem _ he)) s' hs'

/-- **What a reload keeps,** if it is about neither the table nor what this was made from, and is
kept by the events. -/
lemma keeps_reloadWith {I : Session → Prop} {emit : Event → Session → Option Session}
    (hreport : ∀ log s, I s → I (report log s))
    (hkey : ∀ key s, I s → I { s with tableKey := key })
    (htable : ∀ t s, I s → I { s with table := t })
    (hemit : ∀ e s, e.name ∈ Event.reloadNames → I s → Leads ends I (emit e s)) :
    Run.Keeps ends I (reloadWith emit) := by
  refine Run.keeps_get.bind fun s => ?_
  refine (Run.keeps_take hreport _).bind fun key => ?_
  refine (Run.keeps_modify (hkey _)).bind fun _ => ?_
  refine (Run.keeps_take hreport _).bind fun reading => ?_
  refine (Run.keeps_modify (htable _)).bind fun _ => ?_
  refine (Run.keeps_modify (hreport _)).bind fun _ => ?_
  have hevents : ∀ s', I s' → Leads ends I
      (emitAll emit (reloadEvents (s.table.next reading)) s') :=
    leads_emitAll _ fun e he s hs => hemit e s (name_mem_reloadNames he) hs
  exact (Run.keeps_afterEvents hevents).bind fun _ => Run.keeps_pure _

/-- **What a reload leaves alone,** if its events do. -/
lemma keeps_framed_reloadWith {emit : Event → Session → Option Session}
    (hemit : ∀ e s, e.name ∈ Event.reloadNames → s₀.Framed s → Leads ends s₀.Framed (emit e s)) :
    Run.Keeps ends s₀.Framed (reloadWith emit) :=
  keeps_reloadWith (fun log _ h => h.report log)
    (fun _ _ h => h.trans ⟨rfl, rfl, rfl, rfl, rfl, rfl, rfl, rfl⟩)
    (fun _ _ h => h.trans ⟨rfl, rfl, rfl, rfl, rfl, rfl, rfl, rfl⟩) hemit

/-! ## Events -/

/-- **What an event does to its handlers,** one after the other: a recorder keeps it, a handler
that fails does nothing, and one that reloads the table does what a reload does. -/
lemma leads_emit_each {J : List Hook → Session → Prop} {depth : Nat} {e : Event} {s : Session}
    (hreport : ∀ log hs s, J hs s → J hs (report log s))
    (hrecord : ∀ hs s, J (.recording :: hs) s → J hs { s with events := s.events ++ [e] })
    (hfail : ∀ hs s, J (.failing :: hs) s → J hs s)
    (hreload : Hook.reloading ∈ s.bus.handlers e.name → ∀ hs s, J (.reloading :: hs) s →
      Leads ends (fun x => J hs x.2) ((reloadWith (emit depth)).run.run s))
    (hs : J (s.bus.handlers e.name) s) : Leads ends (J []) (emit (depth + 1) e s) := by
  rw [emit]
  refine Bus.leads_emit_each (fun entry hs s h => hreport [entry] hs s h)
    (fun hook hhook rest s' hs' => ?_) hs
  cases hook with
  | recording => exact hrecord rest s' hs'
  | failing => exact hfail rest s' hs'
  | reloading =>
    refine Leads.map ?_
    exact hreload hhook rest s' hs'

/-- **What an event keeps,** if its records do, and a reload that one of its handlers makes. -/
lemma leads_emit_succ {I : Session → Prop} {depth : Nat} {e : Event} {s : Session}
    (hreport : ∀ log s, I s → I (report log s))
    (hrecord : ∀ s, I s → I { s with events := s.events ++ [e] })
    (hreload : Hook.reloading ∈ s.bus.handlers e.name → Run.Keeps ends I (reloadWith (emit depth)))
    (hs : I s) : Leads ends I (emit (depth + 1) e s) :=
  leads_emit_each (J := fun _ => I) (fun log _ s => hreport log s) (fun _ s => hrecord s)
    (fun _ _ hs => hs)
    (fun hhook _ s => hreload hhook s) hs

/-- **What an event leaves alone,** if a reload does that one of its handlers makes. -/
lemma leads_framed_emit_succ {depth : Nat} {e : Event}
    (hreload : Hook.reloading ∈ s₀.bus.handlers e.name →
      Run.Keeps ends s₀.Framed (reloadWith (emit depth))) {s : Session} (hs : s₀.Framed s) :
    Leads ends s₀.Framed (emit (depth + 1) e s) :=
  leads_emit_succ (fun log _ h => h.report log) (fun _ h => h.record e)
    (fun hhook => hreload (hs.bus ▸ hhook)) hs

/-- **What events leave alone.** Whatever the handlers do, and however often the table is reloaded
meanwhile, the settings, the channels, the bus and the document stay as they are.

**Proof sketch.** Induction on the depth of events within events: a handler that reloads the table
emits events of less depth. -/
theorem framed_emit (depth : Nat) (e : Event) {s : Session} (hs : s₀.Framed s) :
    Leads False s₀.Framed (emit depth e s) := by
  induction depth generalizing e s with
  | zero => exact not_false
  | succ depth ih =>
    exact leads_framed_emit_succ (fun _ => keeps_framed_reloadWith fun e s _ hs => ih e hs) hs

/-- **What a reload leaves alone,** whether it succeeds or fails. -/
theorem keeps_reload (s₀ : Session) : Run.Keeps False s₀.Framed reload :=
  keeps_framed_reloadWith fun e _ _ hs => framed_emit maxDepth e hs

/-- **What the first table leaves alone.** -/
theorem keeps_setup (s₀ : Session) : Run.Keeps False s₀.Framed setup :=
  (Run.keeps_modify fun _ hs => Framed.report hs _).bind fun _ => (keeps_reload s₀).discard

/-- **The events of a triggered snippet end,** unless the bus is restless: a reload that one of its
handlers makes has no handler that reloads. -/
theorem leads_emit_triggered (depth : Nat) (snippet : Snippet) (shape : Shape) (key : Text)
    {s : Session} (hs : s₀.Framed s) :
    Leads (¬s₀.bus.Restless) s₀.Framed (emit (depth + 2) (.triggered snippet shape key) s) := by
  by_cases hrestless : s₀.bus.Restless
  · exact (framed_emit _ _ hs).weaken fun h => h hrestless
  · refine leads_framed_emit_succ (fun htriggered => ?_) hs
    refine keeps_framed_reloadWith fun e s' hname hs' =>
      leads_framed_emit_succ (fun hreload => ?_) hs'
    exact absurd ⟨htriggered, e.name, hname, hreload⟩ hrestless

end Session

end Shorthand
