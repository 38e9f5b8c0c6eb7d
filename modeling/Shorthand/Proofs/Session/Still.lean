import Shorthand.Proofs.Session.Reload

set_option autoImplicit false
set_option relaxedAutoImplicit false

/-!
# Applications without handlers that reload

An application whose handlers only look on is the plainest there is. Its events always end, and
leave the table alone like everything else but what was recorded. So a reload makes just one
table, and an expanded trigger none.

## Main definitions

* `Shorthand.Bus.Still` — no handler reloads the table.
* `Shorthand.Session.Watched` — a state that differs from another one at most in what onlookers
  change.
* `Shorthand.Session.SetUp` — an application that was made and has its first table.

## Main results

* `Shorthand.Session.returns_reload` — a reload that can make a table makes the next one.
* `Shorthand.Session.returns_tell` — any other event leaves the table alone.
* `Shorthand.Session.SetUp.readable` — an application that is set up can make its table again.
-/

namespace Shorthand

/-- Every event has one of the names. -/
lemma Event.name_mem_names (e : Event) : e.name ∈ names := by
  cases e
  · exact List.mem_cons_self
  · exact List.mem_cons_of_mem _ List.mem_cons_self
  · exact List.mem_cons_of_mem _ (List.mem_cons_of_mem _ List.mem_cons_self)

/-- No handler reloads the table, whatever it is told of. -/
def Bus.Still (b : Bus Hook) : Prop := ∀ name ∈ Event.names, Hook.reloading ∉ b.handlers name

/-- A bus without subscriptions is still. -/
lemma Bus.still_empty : ({} : Bus Hook).Still := fun _ _ => List.not_mem_nil

namespace Session

variable {s s' : Session} {key : TableKey} {r : Source.Reading}

/-! ## Events -/

/-- The state `s'` differs from `s` at most in the events that were recorded and in the log. -/
structure Watched (s s' : Session) : Prop where
  framed : s.Framed s'
  table : s'.table = s.table
  tableKey : s'.tableKey = s.tableKey

/-- No event at all. -/
lemma Watched.refl (s : Session) : s.Watched s := ⟨Framed.refl s, rfl, rfl⟩

/-- An event that is told to onlookers. -/
lemma leads_emit_of_still {s₀ : Session} (hstill : s₀.bus.Still) (depth : Nat) (e : Event)
    (hs : s₀.Watched s) : Leads True s₀.Watched (emit (depth + 1) e s) := by
  refine leads_emit_succ (fun log s h => ⟨h.framed.report log, h.table, h.tableKey⟩)
    (fun s h => ⟨h.framed.record e, h.table, h.tableKey⟩) (fun hreloading => ?_) hs
  rw [hs.framed.bus] at hreloading
  exact absurd hreloading (hstill _ e.name_mem_names)

/-- **An event leaves the table alone** when no handler reloads. -/
theorem returns_tell (hstill : s.bus.Still) (e : Event) :
    Run.Returns True s (tell e) fun _ s' => s.Watched s' :=
  Run.returns_afterEvents (leads_emit_of_still hstill 329 e (Watched.refl s))

/-! ## Reloads -/

/-- **A reload that can make a table makes the next one,** and only that. -/
theorem returns_reload (hstill : s.bus.Still)
    (hkey : (s.settings.snippets.tableKey s.files).2 = .ok key) (hreading : key.reading = .ok r) :
    Run.Returns True s reload fun t s' => t = s.table.next r ∧ s'.table = t ∧ s.Framed s' := by
  have hrebuilt : (s.rebuilt key r).bus.Still := hstill
  have hevents : Leads True (s.rebuilt key r).Watched
      (emitAll (emit maxDepth) (reloadEvents (s.table.next r)) (s.rebuilt key r)) :=
    leads_emitAll _ (fun e _ _ hs => leads_emit_of_still hrebuilt 329 e hs) _ (Watched.refl _)
  unfold Run.Returns
  rw [reload, run_reloadWith_built hkey hreading]
  refine Leads.map (hevents.mono fun s' hs' => ⟨_, rfl, rfl, hs'.table, ?_⟩)
  exact (framed_rebuilt s key r).trans hs'.framed

/-! ## Applications that are set up -/

/-- What a state remembers can be read again: the settings and the files give the table that is in
use. -/
def Readable (s : Session) : Prop :=
  ∃ key, (s.settings.snippets.tableKey s.files).2 = .ok key ∧ key.reading = .ok s.table.reading

/-- What the settings and the files give for a table. -/
def sourceReading (s : Session) : Except Failure Source.Reading :=
  (s.settings.snippets.tableKey s.files).2.bind TableKey.reading

/-- What a reading comes from. -/
lemma exists_key_of_sourceReading (h : s.sourceReading = .ok r) :
    ∃ key, (s.settings.snippets.tableKey s.files).2 = .ok key ∧ key.reading = .ok r := by
  rw [sourceReading] at h
  cases hkey : (s.settings.snippets.tableKey s.files).2 with
  | error f =>
    rw [hkey] at h
    exact nomatch h
  | ok key =>
    rw [hkey] at h
    exact ⟨key, rfl, h⟩

/-- **The first table is made,** if the settings and the files give one, and setting up fails as
they do. -/
lemma exists_run_setup (hstill : s.bus.Still) :
    ∃ s', setup.run.run s = some (s.sourceReading.map fun _ => (), s') ∧
      ∀ r, s.sourceReading = .ok r → s'.table = s.table.next r ∧ s.Framed s' := by
  rw [setup, note, Run.run_modify_bind, Run.run_discard]
  cases hkey : (s.settings.snippets.tableKey s.files).2 with
  | error f =>
    have hfails : s.sourceReading = .error f := by rw [sourceReading, hkey]; rfl
    have hunread : reload.run.run (report [.settingUp] s) = _ := run_reloadWith_unread hkey
    rw [hfails, hunread]
    exact ⟨_, rfl, by rintro _ ⟨⟩⟩
  | ok key =>
    have hreads : s.sourceReading = key.reading := by rw [sourceReading, hkey]; rfl
    rw [hreads]
    cases hreading : key.reading with
    | error f =>
      have hunbuilt : reload.run.run (report [.settingUp] s) = _ :=
        run_reloadWith_unbuilt hkey hreading
      rw [hunbuilt]
      exact ⟨_, rfl, by rintro _ ⟨⟩⟩
    | ok r =>
      obtain ⟨⟨_, s'⟩, hreload, t, rfl, rfl, htable, hframed⟩ :=
        (returns_reload (s := report [.settingUp] s) hstill hkey hreading).exists_of_ends trivial
      refine ⟨s', by rw [hreload]; rfl, ?_⟩
      rintro _ ⟨⟩
      exact ⟨htable, ((Framed.refl s).report [.settingUp]).trans hframed⟩

/-- The first table of an application without one. -/
lemma readable_of_setup (hstill : s.bus.Still) (h : setup.run.run s = some (.ok (), s')) :
    s.Framed s' ∧ s'.Readable ∧ s'.table.generation = s.table.generation + 1 := by
  obtain ⟨_, hsetup, hmade⟩ := exists_run_setup hstill
  rw [hsetup] at h
  cases hreads : s.sourceReading with
  | error f =>
    rw [hreads] at h
    exact nomatch h
  | ok r =>
    rw [hreads] at h
    cases h
    obtain ⟨htable, hframed⟩ := hmade r hreads
    obtain ⟨key, hkey, hreading⟩ := exists_key_of_sourceReading hreads
    refine ⟨hframed, ⟨key, ?_, ?_⟩, ?_⟩
    · rw [hframed.settings, hframed.files]
      exact hkey
    · rw [htable]
      exact hreading
    · rw [htable]
      rfl

/-- The application was made, with settings that were given or with those of the user's file, and
has its first table. No handler reloads. -/
inductive SetUp : Session → Prop
  | given {s₀ s₁ s : Session} (settings : Settings) (hfresh : s₀.Fresh) (hstill : s₀.bus.Still)
      (hstart : (start settings).run.run s₀ = some (.ok (), s₁))
      (hsetup : setup.run.run s₁ = some (.ok (), s)) : SetUp s
  | fromFile {s₀ s₁ s : Session} (hfresh : s₀.Fresh) (hstill : s₀.bus.Still)
      (hstart : startFromFile.run.run s₀ = some (.ok (), s₁))
      (hsetup : setup.run.run s₁ = some (.ok (), s)) : SetUp s

/-- It was started without a table. -/
lemma SetUp.exists_started (hs : s.SetUp) :
    ∃ s₁ : Session, s₁.bus.Still ∧ s₁.table = {} ∧ setup.run.run s₁ = some (.ok (), s) := by
  cases hs with
  | given settings hfresh hstill hstart hsetup =>
    obtain ⟨-, htable, -⟩ := hfresh
    rw [eq_adopting_of_start hstart] at hsetup
    exact ⟨adopting settings _, hstill, htable, hsetup⟩
  | fromFile hfresh hstill hstart hsetup =>
    obtain ⟨-, htable, -⟩ := hfresh
    obtain ⟨settings, log, rfl⟩ := exists_eq_adopting_of_startFromFile hstart
    exact ⟨adopting settings (report log _), hstill, htable, hsetup⟩

/-- **An application that is set up can make its table again,** which is its first one. -/
theorem SetUp.readable (hs : s.SetUp) : s.bus.Still ∧ s.Readable ∧ s.table.generation = 1 := by
  obtain ⟨s₁, hstill, htable, hsetup⟩ := hs.exists_started
  obtain ⟨hframed, hreadable, hgeneration⟩ := readable_of_setup hstill hsetup
  rw [htable] at hgeneration
  refine ⟨?_, hreadable, hgeneration⟩
  rw [hframed.bus]
  exact hstill

end Session

end Shorthand
