import Shorthand.Proofs.Session.Reached
import Shorthand.Proofs.Settings.Key

set_option autoImplicit false
set_option relaxedAutoImplicit false

/-!
# What reloads and updates come to

A reload remembers what it is to make a table from, makes it, and emits its events, in which
handlers may reload again. An update of the settings reloads unless the new settings give what was
remembered. This says all that either can come to, for the table and for what is remembered of it.

## Main definitions

* `Shorthand.Session.Settled` — a table was made from a key.
* `Shorthand.Session.Calm` — a reload comes to an end.
* `Shorthand.Session.Reloads` — all that a reload can come to.
* `Shorthand.Session.Updates` — all that an update can come to.

## Main results

* `Shorthand.Session.leads_reloadWith` — a reload comes to nothing else, and to an end in a calm
  state.
* `Shorthand.Session.leads_updateSettings` — so does an update.
-/

namespace Shorthand

/-- What a table holds, apart from its count. -/
def Table.reading (t : Table) : Source.Reading := ⟨t.snippets, t.diagnostics⟩

namespace Session

variable {s₀ s : Session} {key : TableKey} {r : Source.Reading} {f : Failure}

/-! ## A reload up to its events -/

/-- The state when a reload knows what it is to make a table from and has tried to. -/
def tried (s : Session) (key : TableKey) : Session :=
  report (s.settings.snippets.read s.files).1
    { report (s.settings.snippets.tableKey s.files).1 s with tableKey := some key }

/-- The state when it has put the new table in place. -/
def rebuilt (s : Session) (key : TableKey) (r : Source.Reading) : Session :=
  report [(s.table.next r).loadedEntry] { s.tried key with table := s.table.next r }

/-- A new table changes nothing outside of the table and what is remembered and logged. -/
lemma framed_rebuilt (s : Session) (key : TableKey) (r : Source.Reading) :
    s.Framed (s.rebuilt key r) := ⟨rfl, rfl, rfl, rfl, rfl, rfl, rfl, rfl⟩

variable {emit : Event → Session → Option Session}

/-- A reload of a source that cannot be read. -/
lemma run_reloadWith_unread (hkey : (s.settings.snippets.tableKey s.files).2 = .error f) :
    (reloadWith emit).run.run s =
      some (.error f, report (s.settings.snippets.tableKey s.files).1 s) := by
  rw [reloadWith, Run.run_get_bind, Run.run_take_bind, hkey]

/-- A reload of a source that no table can be made from. -/
lemma run_reloadWith_unbuilt (hkey : (s.settings.snippets.tableKey s.files).2 = .ok key)
    (hreading : key.reading = .error f) :
    (reloadWith emit).run.run s = some (.error f, s.tried key) := by
  have hread := (SnippetSettings.read_eq_reading hkey).trans hreading
  rw [reloadWith, Run.run_get_bind, Run.run_take_bind, hkey]
  dsimp only
  rw [Run.run_modify_bind, Run.run_take_bind, hread]
  rfl

/-- Any other reload makes a table and goes on to its events. -/
lemma run_reloadWith_built (hkey : (s.settings.snippets.tableKey s.files).2 = .ok key)
    (hreading : key.reading = .ok r) :
    (reloadWith emit).run.run s =
      (emitAll emit (reloadEvents (s.table.next r)) (s.rebuilt key r)).map fun s' =>
        (.ok (s.table.next r), s') := by
  have hread := (SnippetSettings.read_eq_reading hkey).trans hreading
  rw [reloadWith, Run.run_get_bind, Run.run_take_bind, hkey]
  dsimp only
  rw [Run.run_modify_bind, Run.run_take_bind, hread]
  dsimp only
  rw [Run.run_modify_bind, note, Run.run_modify_bind, Run.run_afterEvents_bind]
  exact Option.map_eq_bind.symm

/-! ## The events of a reload -/

/-- The table was made from the key, which gives the reading `r`, later than the first `n`
tables. -/
structure Settled (s : Session) (key : TableKey) (r : Source.Reading) (n : Nat) : Prop where
  tableKey : s.tableKey = some key
  reading : s.table.reading = r
  later : n < s.table.generation

/-- A reload settles its key, its table and a later generation. -/
lemma settled_rebuilt {n : Nat} (hn : n ≤ s.table.generation) : (s.rebuilt key r).Settled key r n :=
  ⟨rfl, rfl, Nat.lt_succ_of_le hn⟩

/-- **What a reload has settled stays so in its events.** A handler that reloads the table again
finds the same settings and the same files.

**Proof sketch.** Induction on the depth of events within events. If the bus is quiet, no handler
reloads the table for an event of a reload, and the events end. -/
lemma leads_emit_settled {n : Nat} (hkey : (s₀.settings.snippets.tableKey s₀.files).2 = .ok key)
    (hreading : key.reading = .ok r) {depth : Nat} {e : Event} (he : e.name ∈ Event.reloadNames)
    (hs : s₀.Framed s ∧ s.Settled key r n) :
    Leads (s₀.bus.Quiet ∧ 0 < depth) (fun s' => s₀.Framed s' ∧ s'.Settled key r n)
      (Session.emit depth e s) := by
  induction depth generalizing e s with
  | zero => exact fun h => Nat.lt_irrefl 0 h.2
  | succ depth ih =>
    refine leads_emit_succ ?report ?record ?reload hs
    case report =>
      rintro log s' ⟨hframed, hsettled⟩
      exact ⟨hframed.report log, hsettled.tableKey, hsettled.reading, hsettled.later⟩
    case record =>
      rintro s' ⟨hframed, hsettled⟩
      exact ⟨hframed.record e, hsettled.tableKey, hsettled.reading, hsettled.later⟩
    case reload =>
      rintro hreloading s' ⟨hframed, hsettled⟩
      -- a bus that lets this handler reload is not quiet, so nothing is said of the end
      have hnoisy : ¬s₀.bus.Quiet := fun hquiet => hquiet e.name he (hs.1.bus ▸ hreloading)
      have hkey' : (s'.settings.snippets.tableKey s'.files).2 = .ok key := by
        rw [hframed.settings, hframed.files]
        exact hkey
      rw [run_reloadWith_built hkey' hreading]
      refine Leads.map (leads_emitAll _ ?_ _ ⟨?_, ?_⟩)
      · intro e' he' s'' hs''
        exact (ih (name_mem_reloadNames he') hs'').weaken fun hends => absurd hends.1 hnoisy
      · exact hframed.trans (framed_rebuilt s' key r)
      · exact settled_rebuilt (Nat.le_of_lt hsettled.later)

/-! ## All that a reload can come to -/

/-- All that a reload from the settings `c` can come to in the state `s`, for the table and what
is remembered of it. -/
inductive Reloads (s : Session) (c : SnippetSettings) : Except Failure Table → Session → Prop
  /-- The source cannot be read. -/
  | unread {f : Failure} {s' : Session} (hkey : (c.tableKey s.files).2 = .error f)
      (htable : s'.table = s.table) (hsame : s'.tableKey = s.tableKey) : Reloads s c (.error f) s'
  /-- No table can be made from it. -/
  | unbuilt {key : TableKey} {f : Failure} {s' : Session} (hkey : (c.tableKey s.files).2 = .ok key)
      (hreading : key.reading = .error f) (htable : s'.table = s.table)
      (hafter : s'.tableKey = some key) : Reloads s c (.error f) s'
  /-- A table is made from it. -/
  | built {key : TableKey} {r : Source.Reading} {s' : Session}
      (hkey : (c.tableKey s.files).2 = .ok key) (hreading : key.reading = .ok r)
      (hsettled : s'.Settled key r s.table.generation) : Reloads s c (.ok (s.table.next r)) s'

/-- It depends on the files, on the table and on what is remembered of it. -/
lemma Reloads.of_same {s₁ s' : Session} {c : SnippetSettings} {result : Except Failure Table}
    (h : s₁.Reloads c result s') (hfiles : s₁.files = s.files) (htable : s₁.table = s.table)
    (hsame : s₁.tableKey = s.tableKey) : s.Reloads c result s' := by
  cases h with
  | unread hkey htable' hsame' =>
    exact .unread (hfiles ▸ hkey) (htable'.trans htable) (hsame'.trans hsame)
  | unbuilt hkey hreading htable' hafter =>
    exact .unbuilt (hfiles ▸ hkey) hreading (htable'.trans htable) hafter
  | built hkey hreading hsettled =>
    rw [htable] at hsettled ⊢
    exact .built (hfiles ▸ hkey) hreading hsettled

/-- A reload from the settings `c` comes to an end, since no handler starts another one, or since
it emits no event. -/
def Calm (s : Session) (c : SnippetSettings) : Prop :=
  s.bus.Quiet ∨ ∃ f, (c.read s.files).2 = .error f

/-- **What a reload comes to,** whatever the handlers do, and followed to any depth of events
within events. -/
theorem leads_reloadWith (depth : Nat) (s : Session) :
    Leads (s.Calm s.settings.snippets ∧ 0 < depth) (fun x => s.Reloads s.settings.snippets x.1 x.2)
      ((reloadWith (Session.emit depth)).run.run s) := by
  cases hkey : (s.settings.snippets.tableKey s.files).2 with
  | error f =>
    rw [run_reloadWith_unread hkey]
    exact .unread hkey rfl rfl
  | ok key =>
    cases hreading : key.reading with
    | error f =>
      rw [run_reloadWith_unbuilt hkey hreading]
      exact .unbuilt hkey hreading rfl rfl
    | ok r =>
      rw [run_reloadWith_built hkey hreading]
      have hevents : Leads (s.bus.Quiet ∧ 0 < depth)
          (fun s' => s.Framed s' ∧ s'.Settled key r s.table.generation)
          (emitAll (Session.emit depth) (reloadEvents (s.table.next r)) (s.rebuilt key r)) :=
        leads_emitAll _
          (fun e he s' hs' => leads_emit_settled hkey hreading (name_mem_reloadNames he) hs') _
          ⟨framed_rebuilt s key r, settled_rebuilt (Nat.le_refl _)⟩
      have hread := (SnippetSettings.read_eq_reading hkey).trans hreading
      have hquiet : s.Calm s.settings.snippets → s.bus.Quiet := fun hcalm =>
        hcalm.resolve_right fun ⟨_, hfails⟩ => nomatch hread.symm.trans hfails
      refine Leads.map ((hevents.mono fun s' hs' => ?_).weaken fun h => ⟨hquiet h.1, h.2⟩)
      exact .built hkey hreading hs'.2

/-- The first table comes to what any other does. -/
lemma leads_setup (s : Session) :
    Leads (s.Calm s.settings.snippets) (fun x => ∃ result, x.1 = result.map (fun _ => ()) ∧
      s.Reloads s.settings.snippets result x.2) (setup.run.run s) := by
  rw [setup, note, Run.run_modify_bind, Run.run_discard]
  have hreload := leads_reloadWith maxDepth (report [.settingUp] s)
  refine Leads.map ((hreload.weaken fun hcalm => ⟨hcalm, by decide⟩).mono fun x hx => ?_)
  exact ⟨x.1, rfl, hx.of_same rfl rfl rfl⟩

/-- What is made of a result succeeds when it does. -/
lemma isOk_of_map {result : Except Failure Table} {outcome : Except Failure Unit}
    (h : outcome = result.map fun _ => ()) : result.isOk = outcome.isOk := by
  rw [h]
  cases result <;> rfl

/-! ## All that an update can come to -/

/-- All that an update to the settings `c` can come to in the state `s`, for the table and what is
remembered of it. -/
inductive Updates (s : Session) (c : Settings) : Except Failure Unit → Session → Prop
  /-- The log fails at one of the modes. -/
  | refused {f : Failure} {s' : Session} (hlog : (modeReports c s).2 = .error f)
      (htable : s'.table = s.table) (hsame : s'.tableKey = s.tableKey) : Updates s c (.error f) s'
  /-- The settings give what is remembered. -/
  | kept {key : TableKey} {s' : Session} (hlog : (modeReports c s).2 = .ok ())
      (hkey : (c.snippets.tableKey s.files).2 = .ok key)
        (hagrees : s.tableKey.any key.agrees = true)
      (htable : s'.table = s.table) (hsame : s'.tableKey = s.tableKey) : Updates s c (.ok ()) s'
  /-- They give something else, or nothing at all. -/
  | reloaded {result : Except Failure Table} {outcome : Except Failure Unit} {s' : Session}
      (hlog : (modeReports c s).2 = .ok ())
      (hnew : ∀ key, (c.snippets.tableKey s.files).2 = .ok key → s.tableKey.any key.agrees = false)
      (h : s.Reloads c.snippets result s') (houtcome : outcome = result.map fun _ => ()) :
      Updates s c outcome s'

/-- What an update does when the settings are in place, whatever events do. -/
def refreshWith (emit : Event → Session → Option Session) (settings : Settings) : Run Unit := do
  let s ← get
  let key ← take (settings.snippets.tableKey s.files)
  if s.tableKey.any key.agrees then return ()
  else discard (reloadWith emit)

/-- It reloads, unless the settings give what is remembered. -/
lemma run_refreshWith (c : Settings) (s : Session) :
    (refreshWith emit c).run.run s =
      match (c.snippets.tableKey s.files).2 with
      | .error f => some (.error f, report (c.snippets.tableKey s.files).1 s)
      | .ok key =>
        if s.tableKey.any key.agrees then some (.ok (), report (c.snippets.tableKey s.files).1 s)
        else (discard (reloadWith emit)).run.run (report (c.snippets.tableKey s.files).1 s) := by
  rw [refreshWith, Run.run_get_bind, Run.run_take_bind]
  cases (c.snippets.tableKey s.files).2 with
  | error f => rfl
  | ok key =>
    dsimp only
    split <;> rfl

/-- What an update does when the settings are in place. -/
lemma run_refresh (c : Settings) (s : Session) :
    (refresh c).run.run s =
      match (c.snippets.tableKey s.files).2 with
      | .error f => some (.error f, report (c.snippets.tableKey s.files).1 s)
      | .ok key =>
        if s.tableKey.any key.agrees then some (.ok (), report (c.snippets.tableKey s.files).1 s)
        else (discard reload).run.run (report (c.snippets.tableKey s.files).1 s) :=
  run_refreshWith c s

/-- An update to which the log does not object goes on with the settings in place. -/
lemma run_updateSettings {c : Settings} (hlog : (modeReports c s).2 = .ok ()) :
    (updateSettings c).run.run s = (refresh c).run.run (adopting c s) := by
  rw [updateSettings_eq, Run.run_bind, run_start, hlog]
  rfl

/-- One to which it objects ends there. The channels keep their setting for lines, and the table
stays. -/
lemma run_updateSettings_refused {c : Settings} (hlog : (modeReports c s).2 = .error f) :
    (updateSettings c).run.run s = some (.error f, configured c s) ∧
      (configured c s).dispatcher.multiline = s.dispatcher.multiline ∧
        (configured c s).table = s.table := by
  refine ⟨?_, Dispatcher.multiline_configure, rfl⟩
  rw [updateSettings_eq, Run.run_bind, run_start, hlog]
  rfl

/-- **What an update comes to,** whatever the handlers do. -/
theorem leads_updateSettings (c : Settings) (s : Session) :
    Leads (s.Calm c.snippets) (fun x => s.Updates c x.1 x.2) ((updateSettings c).run.run s) := by
  cases hlog : (modeReports c s).2 with
  | error f =>
    rw [(run_updateSettings_refused hlog).1]
    exact .refused hlog rfl rfl
  | ok _ =>
    have hfiles : (adopting c s).files = s.files := rfl
    rw [run_updateSettings hlog, run_refresh, hfiles]
    cases hkey : (c.snippets.tableKey s.files).2 with
    | error f =>
      have hreloads : s.Reloads c.snippets (.error f)
          (report (c.snippets.tableKey s.files).1 (adopting c s)) :=
        .unread hkey rfl rfl
      exact .reloaded hlog (fun key h => nomatch hkey.symm.trans h) hreloads rfl
    | ok key =>
      dsimp only
      split
      · rename_i hagrees
        exact .kept hlog hkey hagrees rfl rfl
      · rename_i hnew
        rw [Run.run_discard]
        refine Leads.map ?_
        have hreload :=
          leads_reloadWith maxDepth (report (c.snippets.tableKey s.files).1 (adopting c s))
        refine (hreload.weaken fun hcalm => ⟨hcalm, by decide⟩).mono fun x hx => ?_
        refine .reloaded hlog (fun key' h => ?_) (hx.of_same rfl rfl rfl) rfl
        cases hkey.symm.trans h
        exact Bool.eq_false_iff.mpr hnew

end Session

end Shorthand
