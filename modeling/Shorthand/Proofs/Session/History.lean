import Shorthand.Proofs.Session.Reload
import Shorthand.Proofs.Source.WellFormed

set_option autoImplicit false
set_option relaxedAutoImplicit false

/-!
# What the table in use was made from

Between reloads and updates anything may happen to an application: its settings are changed in
place, files are written, handlers come and go. Of all that went before, two things matter for its
table: what the table in use was made from, and what no table could be made from since. They are
told here by what the calls returned and by the table, and not by what the application remembers;
what it remembers follows from them.

## Main definitions

* `Shorthand.Past` — what a table was made from, and what none could be made from since.
* `Shorthand.Session.Lived` — the states of an application, with their past.
* `Shorthand.Session.Follows` — what a past says about a state.
* `Shorthand.Table.WellFormed` — a table is well formed for what it was made from.
* `Shorthand.Table.Made` — the tables of reloads without an application.

## Main results

* `Shorthand.Session.Lived.follows` — every state follows from its past.
* `Shorthand.Session.setup_of_readable` — the first table.
* `Shorthand.Session.Reached.hasPast` — every state that the application gets to has a past.
* `Shorthand.Session.wellFormed_tables` — every table is well formed for what it was made from.
-/

namespace Shorthand

/-- What an application has tried to make a table from. -/
structure Past where
  /-- What the table in use was made from. -/
  built : Option TableKey := none
  /-- What no table could be made from since, the last time that this was tried. -/
  failed : Option TableKey := none

/-- The past after a reload from a key. When the source could not be read, there was nothing to
make a table from. -/
def Past.afterReload (past : Past) (key : Except Failure TableKey) (succeeded : Bool) : Past :=
  match key with
  | .error _ => past
  | .ok key => if succeeded then { built := some key } else { past with failed := some key }

namespace Session

variable {past : Past} {s s' : Session}

/-! ## Histories -/

/-- The states of an application, with their past. It is made without a table. From then on it
reloads, by itself or by a handler, whose events are followed less deep, and its settings are
updated, each with any result. Meanwhile anything may happen that leaves the table and what is
remembered of it alone. -/
inductive Lived : Past → Session → Prop
  | fresh {s : Session} (h : s.Fresh) : Lived {} s
  | setup {past : Past} {s s' : Session} {result : Except Failure Unit} (hs : Lived past s)
      (h : setup.run.run s = some (result, s')) :
      Lived (past.afterReload (s.settings.snippets.tableKey s.files).2 result.isOk) s'
  | reload {past : Past} {s s' : Session} {result : Except Failure Table} {depth : Nat}
      (hs : Lived past s) (h : (reloadWith (emit depth)).run.run s = some (result, s')) :
      Lived (past.afterReload (s.settings.snippets.tableKey s.files).2 result.isOk) s'
  /-- An update that puts another table in place has reloaded. -/
  | updated {past : Past} {s s' : Session} (c : Settings) (hs : Lived past s)
      (h : (updateSettings c).run.run s = some (.ok (), s')) (htable : s'.table ≠ s.table) :
      Lived (past.afterReload (c.snippets.tableKey s.files).2 true) s'
  /-- One that succeeds otherwise has not. -/
  | kept {past : Past} {s s' : Session} (c : Settings) (hs : Lived past s)
      (h : (updateSettings c).run.run s = some (.ok (), s')) (htable : s'.table = s.table) :
      Lived past s'
  /-- One that fails has reloaded, unless the log has failed at one of the modes. -/
  | refused {past : Past} {s s' : Session} {f : Failure} (c : Settings) (hs : Lived past s)
      (h : (updateSettings c).run.run s = some (.error f, s')) :
      Lived (if (modeReports c s).2.isOk then
        past.afterReload (c.snippets.tableKey s.files).2 false else past) s'
  | meanwhile {past : Past} {s s' : Session} (hs : Lived past s) (htable : s'.table = s.table)
      (hsame : s'.tableKey = s.tableKey) : Lived past s'

/-! ## What a past says -/

/-- What a past says about a state. What the application remembers is the last of what it has
tried. -/
structure Follows (past : Past) (s : Session) : Prop where
  tableKey : s.tableKey = past.failed.or past.built
  failed : ∀ key, past.failed = some key → ∃ f, key.reading = .error f
  built : ∀ key, past.built = some key → key.reading = .ok s.table.reading
  unbuilt : past.built = none → s.table = {}

/-- It is about the table and what is remembered of it. -/
lemma Follows.of_same (h : Follows past s) (htable : s'.table = s.table)
    (hsame : s'.tableKey = s.tableKey) : Follows past s' := by
  refine ⟨hsame.trans h.tableKey, h.failed, ?_, ?_⟩
  · rw [htable]
    exact h.built
  · rw [htable]
    exact h.unbuilt

/-- **A reload makes the state follow from its past.** -/
lemma Follows.afterReload (h : Follows past s) {c : SnippetSettings} {result : Except Failure Table}
    (hreloads : s.Reloads c result s') :
    Follows (past.afterReload (c.tableKey s.files).2 result.isOk) s' := by
  cases hreloads with
  | unread hkey htable hsame =>
    rw [hkey]
    exact h.of_same htable hsame
  | @unbuilt key f s' hkey hreading htable hafter =>
    rw [hkey]
    refine ⟨hafter, ?_, ?_, ?_⟩
    · rintro _ ⟨⟩
      exact ⟨f, hreading⟩
    · rw [htable]
      exact h.built
    · rw [htable]
      exact h.unbuilt
  | built hkey hreading hsettled =>
    rw [hkey]
    refine ⟨hsettled.tableKey, (fun _ hfailed => nomatch hfailed), ?_,
      (fun hbuilt => nomatch hbuilt)⟩
    rintro _ ⟨⟩
    rw [hsettled.reading]
    exact hreading

/-- A table that was made later is another one. -/
lemma Reloads.table_ne {c : SnippetSettings} {result : Except Failure Table}
    (h : s.Reloads c result s') (hok : result.isOk = true) : s'.table ≠ s.table := by
  cases h with
  | unread => exact nomatch hok
  | unbuilt => exact nomatch hok
  | built _ _ hsettled =>
    intro htable
    exact Nat.lt_irrefl _ (htable ▸ hsettled.later)

/-- **Every state follows from its past.**

**Proof sketch.** Induction on the history. What a reload or an update does is one of the cases of
`leads_reloadWith` and `leads_updateSettings`. An update that has reloaded with success has
another table, so the table tells whether it did. -/
theorem Lived.follows (hs : Lived past s) : Follows past s := by
  induction hs with
  | fresh h =>
    obtain ⟨-, htable, hkey⟩ := h
    exact ⟨hkey, (fun _ h => nomatch h), (fun _ h => nomatch h), fun _ => htable⟩
  | @setup past s s' outcome _ h ih =>
    obtain ⟨result, houtcome, hreloads⟩ := (leads_setup s).of_eq_some h
    have hfollows := ih.afterReload hreloads
    rw [isOk_of_map houtcome] at hfollows
    exact hfollows
  | reload _ h ih => exact ih.afterReload ((leads_reloadWith _ _).of_eq_some h)
  | updated c _ h htable ih =>
    have hupdates := (leads_updateSettings c _).of_eq_some h
    cases hupdates with
    | kept _ _ _ hsame _ => exact absurd hsame htable
    | reloaded _ _ hreloads houtcome =>
      have hfollows := ih.afterReload hreloads
      rw [isOk_of_map houtcome] at hfollows
      exact hfollows
  | kept c _ h htable ih =>
    have hupdates := (leads_updateSettings c _).of_eq_some h
    cases hupdates with
    | kept _ _ _ _ hsame => exact ih.of_same htable hsame
    | reloaded _ _ hreloads houtcome =>
      exact absurd htable (hreloads.table_ne (isOk_of_map houtcome))
  | refused c _ h ih =>
    have hupdates := (leads_updateSettings c _).of_eq_some h
    cases hupdates with
    | refused hlog htable hsame =>
      rw [hlog]
      exact ih.of_same htable hsame
    | reloaded hlog _ hreloads houtcome =>
      have hfollows := ih.afterReload hreloads
      rw [isOk_of_map houtcome] at hfollows
      rw [hlog]
      exact hfollows
  | meanwhile _ htable hsame ih => exact ih.of_same htable hsame

/-- The first table, when it can be made and the handlers leave it alone. -/
lemma setup_of_readable {key : TableKey} {r : Source.Reading} (hfresh : s.Fresh)
    (hquiet : s.bus.Quiet) (hkey : (s.settings.snippets.tableKey s.files).2 = .ok key)
    (hreading : key.reading = .ok r) :
    ∃ s', setup.run.run s = some (.ok (), s') ∧ Lived { built := some key } s' ∧
      s.Framed s' ∧ s'.table.reading = r := by
  obtain ⟨⟨outcome, s'⟩, hrun, result, houtcome, hreloads⟩ :=
    (leads_setup s).exists_of_ends (.inl hquiet)
  have hlived := (Lived.fresh hfresh).setup hrun
  have hframed : s.Framed s' := (keeps_setup s _ (Framed.refl s)).of_eq_some hrun
  rw [hkey] at hlived
  cases hreloads with
  | unread hkey' => exact nomatch hkey.symm.trans hkey'
  | unbuilt hkey' hfails =>
    cases hkey.symm.trans hkey'
    exact nomatch hreading.symm.trans hfails
  | built hkey' hreading' hsettled =>
    cases hkey.symm.trans hkey'
    cases hreading.symm.trans hreading'
    cases houtcome
    exact ⟨s', hrun, hlived, hframed, hsettled.reading⟩

/-! ## Every state has a past -/

/-- The state has a past. -/
def HasPast (s : Session) : Prop := ∃ past, Lived past s

/-- It still has one when the table and what is remembered of it are left alone. -/
lemma HasPast.of_same (h : s.HasPast) (htable : s'.table = s.table)
    (hsame : s'.tableKey = s.tableKey) : s'.HasPast :=
  h.imp fun _ hs => hs.meanwhile htable hsame

/-- Reloads by handlers are part of the past. -/
lemma leads_hasPast_emit (depth : Nat) (e : Event) (hs : s.HasPast) :
    Leads False HasPast (emit depth e s) := by
  cases depth with
  | zero => exact not_false
  | succ depth =>
    refine leads_emit_succ ?report ?record ?reload hs
    case report =>
      intro log s hs
      exact hs.of_same rfl rfl
    case record =>
      intro s hs
      exact hs.of_same rfl rfl
    case reload =>
      intro _ s hs
      obtain ⟨past, hs⟩ := hs
      cases hrun : (reloadWith (emit depth)).run.run s with
      | none => exact not_false
      | some x => exact ⟨_, hs.reload hrun⟩

/-- An update is part of the past, whatever comes of it. -/
lemma HasPast.updateSettings {c : Settings} {result : Except Failure Unit} (hs : s.HasPast)
    (h : (updateSettings c).run.run s = some (result, s')) : s'.HasPast := by
  obtain ⟨past, hs⟩ := hs
  cases result with
  | error f => exact ⟨_, hs.refused c h⟩
  | ok _ =>
    by_cases htable : s'.table = s.table
    · exact ⟨_, hs.kept c h htable⟩
    · exact ⟨_, hs.updated c h htable⟩

/-- **Every state that the application gets to has a past.** -/
theorem Reached.hasPast (hs : s.Reached) : s.HasPast := by
  have hemit (e : Event) (s : Session) (hs : s.HasPast) := leads_hasPast_emit maxDepth e hs
  induction hs with
  | start settings hfresh _ h =>
    rw [eq_adopting_of_start h]
    exact HasPast.of_same ⟨_, .fresh hfresh⟩ rfl rfl
  | startFromFile hfresh _ h =>
    obtain ⟨settings, log, rfl⟩ := exists_eq_adopting_of_startFromFile h
    exact HasPast.of_same ⟨_, .fresh hfresh⟩ rfl rfl
  | setup _ h ih =>
    obtain ⟨past, hs⟩ := ih
    exact ⟨_, hs.setup h⟩
  | reload _ h ih =>
    obtain ⟨past, hs⟩ := ih
    exact ⟨_, hs.reload h⟩
  | updateSettings settings _ h ih => exact ih.updateSettings h
  | trigger _ h ih =>
    exact (keeps_trigger (fun _ _ hs => hs.of_same rfl rfl) hemit _ ih).of_eq_some h
  | handleKey p _ h ih =>
    exact (keeps_handleKey (fun _ hs => hs.of_same rfl rfl) hemit _ ih).of_eq_some h
  | surroundings _ _ _ htable hkey _ ih => exact ih.of_same htable hkey

end Session

/-! ## Tables -/

/-- What is read from a key is well formed for its dividers. -/
lemma TableKey.wellFormed_of_reading {key : TableKey} {r : Source.Reading}
    (h : key.reading = .ok r) :
    r.WellFormed (Divider.ofValue key.between).betweenRecords (Divider.ofValue key.parts) := by
  obtain ⟨source, between, parts⟩ := key
  cases source with
  | text source => exact Source.wellFormed_parse h
  | _ => exact nomatch h

namespace Table

/-- A table is well formed for what it was made from: it is what is read from that, and can be
read with its dividers. A table that was made from nothing is the empty one. -/
def WellFormed (t : Table) : Option TableKey → Prop
  | none => t = {}
  | some key =>
    key.reading = .ok t.reading ∧
      t.reading.WellFormed (Divider.ofValue key.between).betweenRecords (Divider.ofValue key.parts)

/-- A table that is what is read from a key is well formed. -/
lemma wellFormed_of_reading {t : Table} {built : Option TableKey}
    (hbuilt : ∀ key, built = some key → key.reading = .ok t.reading)
    (hunbuilt : built = none → t = {}) :
    t.WellFormed built := by
  cases built with
  | none => exact hunbuilt rfl
  | some key => exact ⟨hbuilt key rfl, TableKey.wellFormed_of_reading (hbuilt key rfl)⟩

/-- The tables of reloads without an application, one after the other, each from settings of its
own; and what the table was made from. A reload that fails leaves the table alone. -/
inductive Made : Option TableKey → Table → Prop
  | first : Made none {}
  | reloaded {built : Option TableKey} {t : Table} {c : SnippetSettings} {files : Files}
      {source : Value}
      {r : Source.Reading} (ht : Made built t) (hsource : (c.readSource files).2 = .ok source)
      (h : (c.read files).2 = .ok r) :
        Made (some ⟨source, c.recordDivider, c.partDivider⟩) (t.next r)
  | failed {built : Option TableKey} {t : Table} {c : SnippetSettings} {files : Files} {f : Failure}
      (ht : Made built t) (h : (c.read files).2 = .error f) : Made built t

/-- Each of them is well formed. -/
lemma Made.wellFormed {t : Table} {built : Option TableKey} (ht : Made built t) :
    t.WellFormed built := by
  induction ht with
  | first => rfl
  | reloaded _ hsource h _ =>
    rw [SnippetSettings.read_of_readSource hsource] at h
    exact ⟨h, TableKey.wellFormed_of_reading h⟩
  | failed _ _ ih => exact ih

end Table

namespace Session

/-- **Every table is well formed** for what it was made from, in every state of an application and
after any reloads without one, also when some of them fail. -/
theorem wellFormed_tables :
    (∀ (built : Option TableKey) (t : Table), Table.Made built t → t.WellFormed built) ∧
      ∀ (past : Past) (s : Session), Lived past s → s.table.WellFormed past.built :=
  ⟨fun _ _ ht => ht.wellFormed, fun _ _ hs =>
    Table.wellFormed_of_reading hs.follows.built hs.follows.unbuilt⟩

/-- A table with one snippet, made without an application and with one, whose settings are then
changed in place so that a reload fails. -/
theorem wellFormed_tables_failed :
    ∃ (built : TableKey) (t : Table) (past : Past) (s : Session),
      Table.Made (some built) t ∧ t.snippets.length = 1 ∧
        Lived past s ∧ past.built = some built ∧ past.failed.isSome = true ∧
        s.table.snippets.length = 1 ∧
          t.WellFormed (some built) ∧ s.table.WellFormed past.built := by
  let c : SnippetSettings :=
    { source := .text "ab=x".toList, recordDivider := .text "\n".toList,
      partDivider := .text "=".toList }
  let s₀ : Session :=
    { settings := { snippets := c }, host := { document := { text := [], cursor := 0 } } }
  let key : TableKey := ⟨c.source, c.recordDivider, c.partDivider⟩
  let r : Source.Reading := { snippets := [("ab".toList, Escape.compile "x".toList)] }
  have hmade : Table.Made (some key) (({} : Table).next r) :=
    @Table.Made.reloaded _ _ c {} _ _ .first rfl rfl
  have hkey : (s₀.settings.snippets.tableKey s₀.files).2 = .ok key := rfl
  have hreading : key.reading = .ok r := rfl
  obtain ⟨s, -, hlived, -, htable⟩ :=
    setup_of_readable (s := s₀) ⟨rfl, rfl, rfl⟩ (fun _ _ h => nomatch h) hkey hreading
  let s₁ : Session := { s with settings := { snippets := { c with recordDivider := .text [] } } }
  have hchanged : Lived { built := some key } s₁ := hlived.meanwhile rfl rfl
  have hrun : Session.reload.run.run s₁ = _ := run_reloadWith_unbuilt rfl rfl
  have hfailed := hchanged.reload hrun
  exact ⟨key, _, _, _, hmade, rfl, hfailed, rfl, rfl,
    congrArg (fun r => r.snippets.length) htable, wellFormed_tables.1 _ _ hmade,
    wellFormed_tables.2 _ _ hfailed⟩

end Session

end Shorthand
