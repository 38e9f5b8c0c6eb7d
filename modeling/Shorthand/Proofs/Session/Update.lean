import Shorthand.Proofs.Session.History

set_option autoImplicit false
set_option relaxedAutoImplicit false

/-!
# Updates of the settings

An update makes the table anew only if the new settings give something else than what is
remembered, and what is remembered need not be what the table in use was made from: a reload
remembers what it is to make a table from before it tries.

When a table can be made from the new settings, that does no harm. What no table could be made
from does not agree with it, so the table is kept only if it is the right one. When no table can
be made, it matters whether that was tried before. The first time the update fails; a second time
it finds that nothing has changed, and succeeds with the table of other settings.

## Main results

* `Shorthand.Session.Follows.reading_of_agrees` — what agrees with what is remembered gives the
  table in use, or no table at all.
* `Shorthand.Session.updateSettings_of_readable` — an update leaves the right table, if there is
  one.
* `Shorthand.Session.updateSettings_of_unreadable` — when there is none, the update fails unless
  it was tried last.
-/

namespace Shorthand.Session

variable {past : Past} {s : Session} {key : TableKey} {c : Settings}

/-! ## What is remembered -/

/-- What is remembered is what no table could be made from since, or else what the table was made
from. -/
lemma Follows.any_agrees_iff (h : Follows past s) :
    s.tableKey.any key.agrees = true ↔
      past.failed.any key.agrees = true ∨ past.failed = none ∧
      past.built.any key.agrees = true := by
  rw [h.tableKey]
  cases past.failed <;> simp

/-- **What agrees with what is remembered** gives the table in use, or no table could be made from
it before and none can be made now. -/
theorem Follows.reading_of_agrees (h : Follows past s)
    (hagrees : s.tableKey.any key.agrees = true) :
    key.reading = .ok s.table.reading ∨
      past.failed.any key.agrees = true ∧ ∃ f, key.reading = .error f := by
  rcases h.any_agrees_iff.mp hagrees with hagrees | ⟨-, hagrees⟩
  · obtain ⟨failed, hfailed, hsame⟩ := (Option.any_eq_true _ _).mp hagrees
    exact .inr ⟨hagrees, TableKey.reading_eq_of_agrees hsame ▸ h.failed failed hfailed⟩
  · obtain ⟨built, hbuilt, hsame⟩ := (Option.any_eq_true _ _).mp hagrees
    exact .inl ((TableKey.reading_eq_of_agrees hsame).trans (h.built built hbuilt))

/-! ## Settings that a table can be made from -/

section Readable

variable {source : Value} {r : Source.Reading}

/-- An update to settings that a table can be made from does not fail, and the table is what is
read from them; it is the same table if it was made from what they give and none was to be made
since. -/
lemma Updates.readable {outcome : Except Failure Unit} {s' : Session} (h : s.Updates c outcome s')
    (hfollows : Follows past s) (hlog : (modeReports c s).2 = .ok ())
    (hkey : (c.snippets.tableKey s.files).2 = .ok key) (hreading : key.reading = .ok r) :
    outcome = .ok () ∧ s'.table.reading = r ∧
      (past.failed = none → past.built.any key.agrees = true → s'.table = s.table) := by
  cases h with
  | refused hrefused => exact nomatch hlog.symm.trans hrefused
  | kept _ hkey' hagrees htable =>
    cases hkey.symm.trans hkey'
    refine ⟨rfl, ?_, fun _ _ => htable⟩
    rcases hfollows.reading_of_agrees hagrees with hsame | ⟨-, f, hfails⟩
    · rw [htable]
      exact Except.ok.inj (hsame.symm.trans hreading)
    · exact nomatch hreading.symm.trans hfails
  | reloaded _ hnew hreloads houtcome =>
    cases hreloads with
    | unread hkey' => exact nomatch hkey.symm.trans hkey'
    | unbuilt hkey' hfails =>
      cases hkey.symm.trans hkey'
      exact nomatch hreading.symm.trans hfails
    | built hkey' hreading' hsettled =>
      cases hkey.symm.trans hkey'
      cases hreading.symm.trans hreading'
      refine ⟨houtcome, hsettled.reading, fun hfailed hbuilt => ?_⟩
      exact nomatch (hnew key hkey).symm.trans
        (hfollows.any_agrees_iff.mpr (.inr ⟨hfailed, hbuilt⟩))

end Readable

/-! ## Settings that no table can be made from -/

section Unreadable

variable {f : Failure}

/-- The state after an update that fails for want of a table. It has remembered what none could be
made from. -/
def failedUpdate (s : Session) (c : Settings) (key : TableKey) : Session :=
  (report (c.snippets.tableKey s.files).1 (adopting c s)).tried key

/-- An update to other settings than those remembered, which no table can be made from. -/
lemma run_updateSettings_unbuilt (hlog : (modeReports c s).2 = .ok ())
    (hkey : (c.snippets.tableKey s.files).2 = .ok key) (hreading : key.reading = .error f)
    (hnew : s.tableKey.any key.agrees = false) :
    (updateSettings c).run.run s = some (.error f, s.failedUpdate c key) := by
  have hfiles : (adopting c s).files = s.files := rfl
  have hremembered : (adopting c s).tableKey = s.tableKey := rfl
  rw [run_updateSettings hlog, run_refresh, hfiles, hkey]
  dsimp only
  rw [hremembered, hnew, if_neg Bool.false_ne_true, Run.run_discard, reload,
    run_reloadWith_unbuilt (s := report (c.snippets.tableKey s.files).1 (adopting c s)) hkey
      hreading]
  rfl

/-- An update to what is remembered succeeds, whether or not a table could be made from it. -/
lemma run_updateSettings_kept (hlog : (modeReports c s).2 = .ok ())
    (hkey : (c.snippets.tableKey s.files).2 = .ok key)
    (hagrees : s.tableKey.any key.agrees = true) :
    (updateSettings c).run.run s =
      some (.ok (), report (c.snippets.tableKey s.files).1 (adopting c s)) := by
  have hfiles : (adopting c s).files = s.files := rfl
  have hremembered : (adopting c s).tableKey = s.tableKey := rfl
  rw [run_updateSettings hlog, run_refresh, hfiles, hkey]
  dsimp only
  rw [hremembered, hagrees, if_pos rfl]

/-- An update to settings that no table can be made from leaves the table alone. It fails, unless
this was the last thing that was tried. -/
lemma Updates.unreadable {outcome : Except Failure Unit} {s' : Session} (h : s.Updates c outcome s')
    (hfollows : Follows past s) (hread : (c.snippets.read s.files).2 = .error f) :
    s'.table = s.table ∧
      (outcome = .ok () ↔ (modeReports c s).2 = .ok () ∧
        ∃ key, (c.snippets.tableKey s.files).2 = .ok key ∧ past.failed.any key.agrees = true) := by
  cases h with
  | refused hrefused htable =>
    exact ⟨htable, (fun h => nomatch h), fun h => nomatch h.1.symm.trans hrefused⟩
  | @kept key _ hlog hkey hagrees htable =>
    refine ⟨htable, fun _ => ⟨hlog, key, hkey, ?_⟩, fun _ => rfl⟩
    rcases hfollows.reading_of_agrees hagrees with hreading | ⟨hfailed, -⟩
    · exact nomatch ((SnippetSettings.read_eq_reading hkey).trans hreading).symm.trans hread
    · exact hfailed
  | @reloaded result _ _ _ hnew hreloads houtcome =>
    have hfails : result.isOk = false ∧ s'.table = s.table := by
      cases hreloads with
      | unread _ htable => exact ⟨rfl, htable⟩
      | unbuilt _ _ htable => exact ⟨rfl, htable⟩
      | built hkey hreading =>
        exact nomatch ((SnippetSettings.read_eq_reading hkey).trans hreading).symm.trans hread
    refine ⟨hfails.2, fun hok => ?_, fun ⟨_, key, hkey, hfailed⟩ => ?_⟩
    · have hsucceeds := isOk_of_map houtcome
      rw [hok] at hsucceeds
      exact nomatch hfails.1.symm.trans hsucceeds
    · exact nomatch (hnew key hkey).symm.trans (hfollows.any_agrees_iff.mpr (.inl hfailed))

/-- **When there is no table for the new settings,** the update ends, and the table of other
settings stays in use. It fails, unless the last reload has failed on just what these settings
give: then it returns as if nothing had changed. -/
theorem updateSettings_of_unreadable (hs : Lived past s)
    (hread : (c.snippets.read s.files).2 = .error f) :
    ∃ outcome s', (updateSettings c).run.run s = some (outcome, s') ∧ s'.table = s.table ∧
      (outcome = .ok () ↔ (modeReports c s).2 = .ok () ∧
        ∃ key, (c.snippets.tableKey s.files).2 = .ok key ∧ past.failed.any key.agrees = true) := by
  obtain ⟨⟨outcome, s'⟩, hrun, hupdates⟩ :=
    (leads_updateSettings c s).exists_of_ends (.inr ⟨f, hread⟩)
  exact ⟨outcome, s', hrun, hupdates.unreadable hs.follows hread⟩

/-- An application with the settings that the program starts with, and an update to an empty
divider that has failed. -/
theorem updateSettings_of_unreadable_again :
    ∃ (past : Past) (s : Session) (c : Settings), Lived past s ∧
      (c.snippets.read s.files).2 = .error .emptyDivider ∧
        ∃ outcome s', (updateSettings c).run.run s = some (outcome, s') ∧ s'.table = s.table ∧
          outcome = .ok () := by
  let s₀ : Session := { host := { document := { text := [], cursor := 0 } } }
  let c : Settings := { snippets := { recordDivider := .text [] } }
  let key : TableKey := ⟨c.snippets.source, c.snippets.recordDivider, c.snippets.partDivider⟩
  obtain ⟨s, -, hlived, -, -⟩ :=
    setup_of_readable (s := s₀) ⟨rfl, rfl, rfl⟩ (fun _ _ h => nomatch h) rfl rfl
  have hnew : s.tableKey.any key.agrees = false := by
    rw [hlived.follows.tableKey]
    rfl
  have hkey : (c.snippets.tableKey s.files).2 = .ok key := rfl
  have hrefused := hlived.refused c (run_updateSettings_unbuilt rfl hkey rfl hnew)
  obtain ⟨outcome, s', hrun, htable, hok⟩ :=
    updateSettings_of_unreadable (c := c) (f := .emptyDivider) hrefused rfl
  exact ⟨_, _, c, hrefused, rfl, outcome, s', hrun, htable,
    hok.mpr ⟨rfl, key, rfl, TableKey.agrees_text_iff.mpr rfl⟩⟩

/-- **The same settings twice:** what is refused the first time is taken the second time, and the
table of other settings stays in use. -/
theorem updateSettings_twice (hlog : (modeReports c s).2 = .ok ())
    (hkey : (c.snippets.tableKey s.files).2 = .ok key) (hreading : key.reading = .error f)
    (hnew : s.tableKey.any key.agrees = false) (hsame : key.agrees key = true) :
    ∃ s₁ s₂, (updateSettings c).run.run s = some (.error f, s₁) ∧
      (updateSettings c).run.run s₁ = some (.ok (), s₂) ∧ s₂.table = s.table :=
  ⟨s.failedUpdate c key, _, run_updateSettings_unbuilt hlog hkey hreading hnew,
    run_updateSettings_kept (s := s.failedUpdate c key) hlog hkey hsame, rfl⟩

/-- The settings that the program starts with, and then twice an empty divider between records. No
table can be made with it, but the second update returns, and the four snippets of the first table
are still in use. -/
theorem updateSettings_empty_divider_twice :
    ∃ (s₀ s s₁ s₂ : Session) (c : Settings), s₀.Fresh ∧ setup.run.run s₀ = some (.ok (), s) ∧
      (updateSettings c).run.run s = some (.error .emptyDivider, s₁) ∧
        (c.snippets.read s₁.files).2 = .error .emptyDivider ∧
          (updateSettings c).run.run s₁ = some (.ok (), s₂) ∧
            s₂.table.snippets.length = 4 ∧ s₂.table = s.table := by
  let s₀ : Session := { host := { document := { text := [], cursor := 0 } } }
  let c : Settings := { snippets := { recordDivider := .text [] } }
  obtain ⟨s, hsetup, hlived, hframed, hreading⟩ :=
    setup_of_readable (s := s₀) ⟨rfl, rfl, rfl⟩ (fun _ _ h => nomatch h) rfl rfl
  let key : TableKey := ⟨c.snippets.source, c.snippets.recordDivider, c.snippets.partDivider⟩
  have hnew : s.tableKey.any key.agrees = false := by
    rw [hlived.follows.tableKey]
    rfl
  have hkey : (c.snippets.tableKey s.files).2 = .ok key := rfl
  obtain ⟨s₁, s₂, hfirst, hsecond, htable⟩ :=
    updateSettings_twice rfl hkey rfl hnew (TableKey.agrees_text_iff.mpr rfl)
  refine ⟨s₀, s, s₁, s₂, c, ⟨rfl, rfl, rfl⟩, hsetup, hfirst, rfl, hsecond, ?_, htable⟩
  rw [htable]
  exact congrArg (fun r => r.snippets.length) hreading

end Unreadable

end Shorthand.Session
