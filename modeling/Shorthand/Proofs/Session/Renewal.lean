import Shorthand.Proofs.Session.History

set_option autoImplicit false
set_option relaxedAutoImplicit false

/-!
# Reloads are all or nothing

A reload that fails leaves the table in use as it was, and no handler hears of it. One that
succeeds puts the new table in place first and tells the handlers then: of each malformed record,
in the order of the records, and last of the table. Whichever handler is called, and whatever the
ones before it have done, it finds the new table in use. Setting up and updating the settings
reload in the same way, or not at all.

That no event is emitted is said by leaving open what events do: a run that comes to the same with
any events has emitted none, and one that emits certain events does what they do, whatever that
is.

All this is about a bus without handlers that reload the table when it is reloaded.

## Main definitions

* `Shorthand.Session.Request`, `Shorthand.Session.Request.runWith` — what may reload the table.
* `Shorthand.Session.Quits` — a run that emits no event and leaves the table as it was.
* `Shorthand.Session.Swaps` — a run that puts a table in place and then emits its events.
* `Shorthand.Session.Notifies` — handlers are told of events, each in a state.
* `Shorthand.Session.Renews` — a run that swaps the table and comes to an end, with all handlers
  told.
* `Shorthand.Session.Renewed` — the states of an application, with the tables that were put in
  place.

## Main results

* `Shorthand.Session.Request.quits_or_swaps` — a request does either of the two.
* `Shorthand.Session.exists_notifies` — the events of a reload reach all their handlers, and end.
* `Shorthand.Session.Renewed.counted` — the table in use is the last that was put in place, and
  counts them.
* `Shorthand.Session.renewed_all_or_nothing` — both together, in every state of an application.
-/

namespace Shorthand

/-- What recorders keep of an event. -/
def Bus.kept (b : Bus Hook) (e : Event) : List Event :=
  List.replicate ((b.handlers e.name).count .recording) e

namespace Session

variable {s s₀ s₁ s' : Session}

/-! ## What is told of a reload -/

/-- How handlers are run by an event, when events within it are followed to a depth. -/
def listeners (depth : Nat) (e : Event) : Bus.Program Hook Session :=
  { name := Hook.name, note := fun entry => report [entry], call := callHook (emit depth) e }

/-- A handler is told of an event, in the state that it finds. -/
structure Notice where
  event : Event
  hook : Hook
  state : Session

/-- **Handlers are told of events,** of one event after the other, and each handler in the state
that the one before it has left. -/
inductive Notifies (depth : Nat) : List Event → Session → List Notice → Session → Prop
  | nil {s : Session} : Notifies depth [] s [] s
  /-- That the event is emitted may be reported before its handlers are called. -/
  | cons {e : Event} {rest : List Event} {s s₁ s' : Session} {log : Log}
      {seen : List (Hook × Session)}
      {notices : List Notice}
      (hevent : (listeners depth e).Delivers e.name (s.bus.handlers e.name) (report log s) seen s₁)
      (hrest : Notifies depth rest s₁ notices s') :
      Notifies depth (e :: rest) s (seen.map (fun x => ⟨e, x.1, x.2⟩) ++ notices) s'

/-- The state differs from `s₀` in what an event that tells of a reload may change, but not in the
table; and what was recorded, with what the handlers `hs` will record, comes to `l`. -/
structure Telling (s₀ : Session) (e : Event) (l : List Event) (hs : List Hook) (s : Session) :
    Prop where
  framed : s₀.Framed s
  table : s.table = s₀.table
  events : s.events ++ List.replicate (hs.count .recording) e = l

/-- **An event of a reload ends,** with the table in use, and every recorder keeps it. -/
lemma leads_telling (depth : Nat) {e : Event} (he : e.name ∈ Event.reloadNames)
    (hquiet : s.bus.Quiet) :
    Leads True (fun s' => s.Framed s' ∧ s'.table = s.table ∧ s'.events = s.events ++ s.bus.kept e)
      (emit (depth + 1) e s) := by
  have hstart : s.Telling e (s.events ++ s.bus.kept e) (s.bus.handlers e.name) s :=
    ⟨.refl s, rfl, rfl⟩
  have hevent : Leads True (s.Telling e (s.events ++ s.bus.kept e) []) (emit (depth + 1) e s) := by
    refine leads_emit_each ?report ?record ?fail ?reload hstart
    case report =>
      intro log hs s' h
      exact ⟨h.framed.report log, h.table, h.events⟩
    case record =>
      intro hs s' h
      refine ⟨h.framed.record e, h.table, ?_⟩
      have hevents := h.events
      rw [List.count_cons_self, List.replicate_succ, List.append_cons] at hevents
      exact hevents
    case fail =>
      intro hs s' h
      exact ⟨h.framed, h.table, h.events⟩
    case reload =>
      intro hreloading
      exact absurd hreloading (hquiet e.name he)
  refine hevent.mono fun s' h => ?_
  exact ⟨h.framed, h.table, (List.append_nil _).symm.trans h.events⟩

/-- Every handler of an event of a reload finds the table in use. -/
lemma table_of_delivers {depth : Nat} {e : Event} {seen : List (Hook × Session)}
    (he : e.name ∈ Event.reloadNames) (hquiet : s.bus.Quiet)
    (h : (listeners depth e).Delivers e.name (s.bus.handlers e.name) s₁ seen s') :
    ∀ x ∈ seen, x.2.table = s₁.table := by
  refine h.forall_seen (I := fun s₂ => s₂.table = s₁.table) (fun _ _ hs₂ => hs₂) ?_ rfl
  intro hook hhook s₂ r hs₂ hcall
  cases hook with
  | recording | failing =>
    cases hcall
    exact hs₂
  | reloading => exact absurd hhook (hquiet e.name he)

/-- **The events of a reload reach all their handlers, and end,** with the table in use.

**Proof sketch.** Induction on the events. No handler of theirs reloads the table, and nothing
else that they do changes it or the subscriptions. -/
theorem exists_notifies (depth : Nat) :
    ∀ (es : List Event) (s : Session), (∀ e ∈ es, e.name ∈ Event.reloadNames) → s.bus.Quiet →
      ∃ s' notices, emitAll (emit (depth + 1)) es s = some s' ∧ Notifies depth es s notices s' ∧
        notices.map (fun n => (n.event, n.hook)) =
          es.flatMap (fun e => (s.bus.handlers e.name).map (e, ·)) ∧
        (∀ n ∈ notices, n.state.table = s.table) ∧
        s.Framed s' ∧ s'.table = s.table ∧ s'.events = s.events ++ es.flatMap s.bus.kept
  | [], s, _, _ =>
    ⟨s, [], rfl, .nil, rfl, List.forall_mem_nil _, .refl s, rfl, (List.append_nil _).symm⟩
  | e :: rest, s, hnames, hquiet => by
    obtain ⟨he, hrest⟩ := List.forall_mem_cons.mp hnames
    obtain ⟨s₁, hemit, hframed, htable, hevents⟩ :=
      (leads_telling depth he hquiet).exists_of_ends trivial
    obtain ⟨s₂, seen, hs₂, hdelivers⟩ := Bus.exists_delivers_emit (p := listeners depth e) hemit
    obtain ⟨log, rfl⟩ : ∃ log, s₂ = report log s := by
      obtain rfl | ⟨entry, rfl⟩ := hs₂
      · exact ⟨[], by rw [report, List.append_nil]⟩
      · exact ⟨[entry], rfl⟩
    have hseen := table_of_delivers he hquiet hdelivers
    obtain ⟨s', notices, hemits, hnotifies, hcalled, hstates, hframed', htable', hevents'⟩ :=
      exists_notifies depth rest s₁ hrest (hframed.bus ▸ hquiet)
    rw [hframed.bus] at hcalled hevents'
    refine ⟨s', _, ?_, .cons hdelivers hnotifies, ?_, ?_, hframed.trans hframed',
      htable'.trans htable, ?_⟩
    · rw [emitAll, hemit]
      exact hemits
    · rw [List.map_append, hcalled, List.map_map, List.flatMap_cons, ← hdelivers.map_fst,
        List.map_map]
      rfl
    · refine List.forall_mem_append.mpr ⟨?_, fun n hn => (hstates n hn).trans htable⟩
      exact List.forall_mem_map.mpr hseen
    · rw [hevents', hevents, List.flatMap_cons, List.append_assoc]

/-! ## What may reload the table -/

/-- What may reload the table. -/
inductive Request where
  | setup
  | reload
  | update (settings : Settings)

namespace Request

/-- A request, whatever events do. -/
def runWith : Request → (Event → Session → Option Session) → Run Unit
  | setup, emit => do
    note [.settingUp]
    discard (reloadWith emit)
  | reload, emit => discard (reloadWith emit)
  | update settings, emit => do
    start settings
    refreshWith emit settings

/-- A request to set up is `setup`. -/
lemma runWith_setup : setup.runWith (emit maxDepth) = Session.setup := rfl

/-- A request to reload is `reload`, whose table is not looked at. -/
lemma runWith_reload : reload.runWith (emit maxDepth) = discard Session.reload := rfl

/-- A request to update is `updateSettings`. -/
lemma runWith_update (settings : Settings) :
    (update settings).runWith (emit maxDepth) = updateSettings settings :=
  (updateSettings_eq settings).symm

/-- The request finds that there is no need to reload: the new settings give what is remembered. -/
def skips (s : Session) : Request → Bool
  | update settings =>
    match (settings.snippets.tableKey s.files).2 with
    | .ok key => s.tableKey.any key.agrees
    | .error _ => false
  | _ => false

end Request

/-! ## All or nothing -/

section Outcomes

variable {α β : Type} {run : (Event → Session → Option Session) → Run α} {a : α} {t : Table}
variable {result : Except Failure α}

/-- **A run that emits no event:** it comes to the same whatever events do. The table and what was
recorded are left as they were. -/
structure Quits (run : (Event → Session → Option Session) → Run α) (s : Session)
    (result : Except Failure α) (s' : Session) : Prop where
  silent : ∀ emit, (run emit).run.run s = some (result, s')
  table : s'.table = s.table
  events : s'.events = s.events

/-- A run that puts the table `t` in place, which is one more than the one before, and then emits
one event for each of its malformed records, in their order, and one for the table itself, and no
others: the state is `s₁` by then, and the handlers and what was recorded are as they were. -/
structure Swaps (run : (Event → Session → Option Session) → Run α) (s : Session) (a : α) (t : Table)
    (s₁ : Session) : Prop where
  tells : ∀ emit, (run emit).run.run s =
    (emitAll emit (t.diagnostics.map .malformed ++ [.reloaded t]) s₁).map fun s' => (.ok a, s')
  table : s₁.table = t
  generation : t.generation = s.table.generation + 1
  ordered : t.diagnostics.Pairwise (·.index < ·.index)
  bus : s₁.bus = s.bus
  events : s₁.events = s.events

/-- It quits also when its result is not used. -/
lemma Quits.discard {f : Failure} (h : Quits run s (.error f) s') :
    Quits (fun emit => discard (run emit)) s (.error f) s' := by
  refine ⟨fun emit => ?_, h.table, h.events⟩
  rw [Run.run_discard, h.silent]
  rfl

/-- It swaps also when its result is not used. -/
lemma Swaps.discard (h : Swaps run s a t s₁) :
    Swaps (fun emit => discard (run emit)) s () t s₁ := by
  refine ⟨fun emit => ?_, h.table, h.generation, h.ordered, h.bus, h.events⟩
  rw [Run.run_discard, h.tells, Option.map_map]
  rfl

/-- What a run does that goes on from another state with the same table. -/
lemma Quits.of_same {run' : (Event → Session → Option Session) → Run α} (h : Quits run s₀ result s')
    (hrun : ∀ emit, (run' emit).run.run s = (run emit).run.run s₀) (htable : s₀.table = s.table)
    (hevents : s₀.events = s.events) : Quits run' s result s' :=
  ⟨fun emit => (hrun emit).trans (h.silent emit), h.table.trans htable, h.events.trans hevents⟩

/-- The same of one that swaps, when the handlers are the same too. -/
lemma Swaps.of_same {run' : (Event → Session → Option Session) → Run α} (h : Swaps run s₀ a t s₁)
    (hrun : ∀ emit, (run' emit).run.run s = (run emit).run.run s₀) (htable : s₀.table = s.table)
    (hbus : s₀.bus = s.bus) (hevents : s₀.events = s.events) : Swaps run' s a t s₁ :=
  ⟨fun emit => (hrun emit).trans (h.tells emit), h.table, htable ▸ h.generation, h.ordered,
    h.bus.trans hbus, h.events.trans hevents⟩

end Outcomes

/-- **A reload is all or nothing.** -/
theorem reloadWith_quits_or_swaps (s : Session) :
    (∃ f s', Quits reloadWith s (.error f) s') ∨ ∃ t s₁, Swaps reloadWith s t t s₁ := by
  cases hkey : (s.settings.snippets.tableKey s.files).2 with
  | error f => exact .inl ⟨f, _, fun _ => run_reloadWith_unread hkey, rfl, rfl⟩
  | ok key =>
    cases hreading : key.reading with
    | error f => exact .inl ⟨f, _, fun _ => run_reloadWith_unbuilt hkey hreading, rfl, rfl⟩
    | ok r =>
      have hordered := (TableKey.wellFormed_of_reading hreading).ordered
      exact .inr ⟨_, _, fun _ => run_reloadWith_built hkey hreading, rfl, rfl, hordered, rfl, rfl⟩

/-- So is one that a request goes on to. -/
lemma quits_or_swaps_of_run_eq (run : (Event → Session → Option Session) → Run Unit)
    (s s₀ : Session) (hrun : ∀ emit, (run emit).run.run s = (discard (reloadWith emit)).run.run s₀)
    (htable : s₀.table = s.table) (hbus : s₀.bus = s.bus) (hevents : s₀.events = s.events) :
    (∃ f s', Quits run s (.error f) s') ∨ ∃ t s₁, Swaps run s () t s₁ := by
  rcases reloadWith_quits_or_swaps s₀ with ⟨f, s', hquits⟩ | ⟨t, s₁, hswaps⟩
  · exact .inl ⟨f, s', hquits.discard.of_same hrun htable hevents⟩
  · exact .inr ⟨t, s₁, hswaps.discard.of_same hrun htable hbus hevents⟩

/-- An update that emits the events `emit`, when the new settings are in place. -/
lemma run_update {c : Settings} (hlog : (modeReports c s).2 = .ok ())
    (emit : Event → Session → Option Session) :
    ((Request.update c).runWith emit).run.run s = (refreshWith emit c).run.run (adopting c s) := by
  rw [Request.runWith, Run.run_bind, run_start, hlog]
  rfl

/-- **So is every request:** it fails and emits no event, or it swaps the table, unless there is
no need to. -/
theorem Request.quits_or_swaps (q : Request) (s : Session) :
    (∃ f s', Quits q.runWith s (.error f) s') ∨
    (q.skips s = true ∧ ∃ s', Quits q.runWith s (.ok ()) s') ∨
      q.skips s = false ∧ ∃ t s₁, Swaps q.runWith s () t s₁ := by
  cases q with
  | setup =>
    have hreload := quits_or_swaps_of_run_eq setup.runWith s (report [.settingUp] s)
      (fun emit => Run.run_modify_bind _ _ _) rfl rfl rfl
    exact hreload.imp_right fun h => .inr ⟨rfl, h⟩
  | reload =>
    have hreload := quits_or_swaps_of_run_eq reload.runWith s s (fun _ => rfl) rfl rfl rfl
    exact hreload.imp_right fun h => .inr ⟨rfl, h⟩
  | update c =>
    cases hlog : (modeReports c s).2 with
    | error f =>
      refine .inl ⟨f, configured c s, fun emit => ?_, rfl, rfl⟩
      rw [runWith, Run.run_bind, run_start, hlog]
      rfl
    | ok _ =>
      have hrun (emit : Event → Session → Option Session) :=
        (run_update hlog emit).trans (run_refreshWith c (adopting c s))
      have hfiles : (adopting c s).files = s.files := rfl
      have hsame : (adopting c s).tableKey = s.tableKey := rfl
      simp only [hfiles, hsame] at hrun
      rw [skips]
      cases hkey : (c.snippets.tableKey s.files).2 with
      | error f =>
        simp only [hkey] at hrun
        exact .inl ⟨f, _, hrun, rfl, rfl⟩
      | ok key =>
        simp only [hkey] at hrun
        cases hagrees : s.tableKey.any key.agrees with
        | true =>
          simp only [hagrees, if_true] at hrun
          exact .inr (.inl ⟨hagrees, _, hrun, rfl, rfl⟩)
        | false =>
          simp only [hagrees, Bool.false_eq_true, if_false] at hrun
          exact (quits_or_swaps_of_run_eq _ s _ hrun rfl rfl rfl).imp_right fun h =>
            .inr ⟨hagrees, h⟩

/-- **A run that puts a table in place and tells of it,** when events within its events are
followed to a depth. It tells of each malformed record, in their order, and then of the table: the
handlers of each event are called, in order, and every one of them finds the new table in use.
Whatever they do, the run returns, that table stays in use, and the recorders among them have kept
the events. -/
structure Renews {α : Type} (depth : Nat) (run : (Event → Session → Option Session) → Run α)
    (s : Session) (a : α) (t : Table) (s' : Session) : Prop where
  returns : (run (emit (depth + 1))).run.run s = some (.ok a, s')
  table : s'.table = t
  events : s'.events =
    s.events ++ (t.diagnostics.map Event.malformed ++ [Event.reloaded t]).flatMap s.bus.kept
  tells : ∃ s₁ notices, Swaps run s a t s₁ ∧
    Notifies depth (t.diagnostics.map .malformed ++ [.reloaded t]) s₁ notices s' ∧
    notices.map (fun n => (n.event, n.hook)) =
      (t.diagnostics.map Event.malformed ++ [Event.reloaded t]).flatMap
        (fun e => (s.bus.handlers e.name).map (e, ·)) ∧
    ∀ n ∈ notices, n.state.table = t

/-- What swaps the table tells of it. -/
lemma Swaps.renews {α : Type} {run : (Event → Session → Option Session) → Run α} {a : α} {t : Table}
    (h : Swaps run s a t s₁) (hquiet : s.bus.Quiet) (depth : Nat) :
    ∃ s', Renews depth run s a t s' := by
  obtain ⟨s', notices, hemits, hnotifies, hcalled, hstates, -, htable, hevents⟩ :=
    exists_notifies depth (t.diagnostics.map .malformed ++ [.reloaded t]) s₁
      (fun _ he => name_mem_reloadNames he) (h.bus.symm ▸ hquiet)
  rw [h.table] at htable hstates
  rw [h.bus] at hcalled hevents
  rw [h.events] at hevents
  refine ⟨s', ?_, htable, hevents, s₁, notices, h, hnotifies, hcalled, hstates⟩
  rw [h.tells, hemits]
  rfl

/-! ## Tables one after the other -/

/-- The states of an application, with the tables that were put in place, in order. It is made
without a table. From then on a request that does not fail puts another one in place, unless it
skips that. Requests are made while no handler reloads the table when it is reloaded; between them
anything may happen that leaves the table alone. -/
inductive Renewed : List Table → Session → Prop
  | fresh {s : Session} (h : s.Fresh) : Renewed [] s
  | request {tables : List Table} {s s' : Session} {result : Except Failure Unit} {depth : Nat}
      (q : Request)
      (hs : Renewed tables s) (hquiet : s.bus.Quiet)
      (h : (q.runWith (emit (depth + 1))).run.run s = some (result, s')) :
      Renewed (tables ++ if result.isOk && !q.skips s then [s'.table] else []) s'
  | meanwhile {tables : List Table} {s s' : Session} (hs : Renewed tables s)
      (htable : s'.table = s.table) :
      Renewed tables s'

/-- The table in use is the last of the tables, and each of them counts those up to it. -/
structure Counted (tables : List Table) (s : Session) : Prop where
  inUse : s.table = tables.getLastD {}
  count : s.table.generation = tables.length
  each : ∀ i t, tables[i]? = some t → t.generation = i + 1

namespace Counted

variable {tables : List Table}

/-- It is about the table alone. -/
lemma of_same (h : Counted tables s) (htable : s'.table = s.table) : Counted tables s' :=
  ⟨htable.trans h.inUse, htable ▸ h.count, h.each⟩

/-- One table more. -/
lemma concat {t : Table} (h : Counted tables s)
    (hgeneration : t.generation = s.table.generation + 1) (htable : s'.table = t) :
    Counted (tables ++ [t]) s' := by
  have hcount : t.generation = tables.length + 1 := hgeneration.trans (congrArg (· + 1) h.count)
  refine ⟨?_, ?_, fun i t' ht' => ?_⟩
  · rw [htable, List.getLastD_concat]
  · rw [htable, hcount, List.length_append, List.length_singleton]
  · rcases Nat.lt_or_ge i tables.length with hi | hi
    · rw [List.getElem?_append_left hi] at ht'
      exact h.each i t' ht'
    · rw [List.getElem?_append_right hi, List.getElem?_singleton] at ht'
      split at ht'
      · rename_i hlast
        cases ht'
        omega
      · exact nomatch ht'

end Counted

/-- **The table in use is the last that was put in place, and counts them.**

**Proof sketch.** Induction on the history. A request that fails or skips leaves the table as it
was, and one that swaps it leaves the next one (`Request.quits_or_swaps`), whatever its events
do. -/
theorem Renewed.counted {tables : List Table} (hs : Renewed tables s) : Counted tables s := by
  induction hs with
  | fresh h =>
    obtain ⟨-, htable, -⟩ := h
    exact ⟨htable, htable ▸ rfl, fun _ _ h => nomatch h⟩
  | meanwhile _ htable ih => exact ih.of_same htable
  | @request tables s s' result depth q _ hquiet h ih =>
    rcases q.quits_or_swaps s with ⟨f, s₁, hquits⟩ | ⟨hskips, s₁, hquits⟩ | ⟨hskips, t, s₁, hswaps⟩
    · cases (hquits.silent _).symm.trans h
      rw [show (Except.error f : Except Failure Unit).isOk = false from rfl, Bool.false_and]
      rw [if_neg Bool.false_ne_true, List.append_nil]
      exact ih.of_same hquits.table
    · cases (hquits.silent _).symm.trans h
      rw [hskips, Bool.not_true, Bool.and_false, if_neg Bool.false_ne_true, List.append_nil]
      exact ih.of_same hquits.table
    · obtain ⟨s₂, hrenews⟩ := hswaps.renews hquiet depth
      cases hrenews.returns.symm.trans h
      rw [hskips, hrenews.table]
      exact ih.concat hswaps.generation hrenews.table

/-- **Reloads are all or nothing, and their events tell the truth,** in every state of an
application whose handlers do not reload the table when it is reloaded.

The table in use counts the tables that were put in place. A reload fails without an event and
leaves the table as it was, or it returns the next table, after it has told of that. Every request
does one of these, or finds that there is no need to. `Session.reload`, `Session.setup` and
`Session.updateSettings` are the reload and the requests whose events are followed to `maxDepth`,
and any other depth would do. Tables that were in use before stand unchanged in the history. -/
theorem renewed_all_or_nothing {tables : List Table} (hs : Renewed tables s) (hquiet : s.bus.Quiet)
    (depth : Nat) :
    Counted tables s ∧
      ((∃ f s', Quits reloadWith s (.error f) s' ∧ Renewed tables s') ∨
        ∃ t s', Renews depth reloadWith s t t s' ∧ Renewed (tables ++ [t]) s') ∧
      ∀ q : Request, (∃ f s', Quits q.runWith s (.error f) s' ∧ Renewed tables s') ∨
        (q.skips s = true ∧ ∃ s', Quits q.runWith s (.ok ()) s' ∧ Renewed tables s') ∨
        q.skips s = false ∧ ∃ t s', Renews depth q.runWith s () t s' ∧
        Renewed (tables ++ [t]) s' := by
  refine ⟨hs.counted, ?_, fun q => ?_⟩
  · rcases reloadWith_quits_or_swaps s with ⟨f, s', hquits⟩ | ⟨t, s₁, hswaps⟩
    · exact .inl ⟨f, s', hquits, hs.meanwhile hquits.table⟩
    · obtain ⟨s', hrenews⟩ := hswaps.renews hquiet depth
      have hrun : (Request.reload.runWith (emit (depth + 1))).run.run s = some (.ok (), s') := by
        rw [Request.runWith, Run.run_discard, hrenews.returns]
        rfl
      have hnext := hs.request .reload hquiet hrun
      rw [hrenews.table] at hnext
      exact .inr ⟨t, s', hrenews, hnext⟩
  · rcases q.quits_or_swaps s with ⟨f, s', hquits⟩ | ⟨hskips, s', hquits⟩ | ⟨hskips, t, s₁, hswaps⟩
    · exact .inl ⟨f, s', hquits, hs.meanwhile hquits.table⟩
    · exact .inr (.inl ⟨hskips, s', hquits, hs.meanwhile hquits.table⟩)
    · obtain ⟨s', hrenews⟩ := hswaps.renews hquiet depth
      have hnext := hs.request q hquiet hrenews.returns
      rw [hskips, hrenews.table] at hnext
      exact .inr (.inr ⟨hskips, t, s', hrenews, hnext⟩)

/-- The first table, of which two records are malformed, told to a handler that fails and to a
recorder; then a reload after the settings were changed in place, so that it fails. -/
theorem renewed_all_or_nothing_failed :
    ∃ (s s' s'' : Session) (t : Table) (c : Settings) (f : Failure), Renewed [] s ∧ s.bus.Quiet ∧
      Renews 329 Request.setup.runWith s () t s' ∧
        t.snippets = [("ab".toList, ⟨"x".toList, 0, false⟩)] ∧ t.generation = 1 ∧
          s'.events =
            [.malformed ⟨1, "cd".toList, .missingDivider (.text "=".toList)⟩,
              .malformed ⟨2, "=y".toList, .emptyTrigger⟩, .reloaded t] ∧
            Renewed [t] s' ∧ Quits reloadWith { s' with settings := c } (.error f) s'' ∧
              Renewed [t] s'' := by
  let snippets : SnippetSettings :=
    { source := .text "ab=x\ncd\n=y".toList
      recordDivider := .text "\n".toList
      partDivider := .text "=".toList }
  let b : Bus Hook := ⟨Event.reloadNames.flatMap fun name => [(name, .failing), (name, .recording)]⟩
  let s : Session :=
    { settings := { snippets }, bus := b, host := { document := { text := [], cursor := 0 } } }
  let c : Settings := { snippets := { snippets with recordDivider := .text [] } }
  have hs : Renewed [] s := .fresh ⟨rfl, rfl, rfl⟩
  have hquiet : s.bus.Quiet := by unfold Bus.Quiet; decide
  let told : List Event :=
    [.malformed ⟨1, "cd".toList, .missingDivider (.text "=".toList)⟩,
      .malformed ⟨2, "=y".toList, .emptyTrigger⟩]
  have htells : (setup.run.run s).map (fun x => (x.2.table.snippets, x.2.events)) =
      (setup.run.run s).map fun x =>
        ([("ab".toList, ⟨"x".toList, 0, false⟩)], told ++ [.reloaded x.2.table]) := by
    decide +kernel
  obtain ⟨-, -, hrequest⟩ := renewed_all_or_nothing hs hquiet 329
  rcases hrequest .setup with ⟨f, s', hquits, -⟩ | ⟨hskips, -⟩ | ⟨-, t, s', hrenews, hs'⟩
  · have hrun : setup.run.run s = some (.error f, s') := hquits.silent (emit maxDepth)
    rw [hrun] at htells
    obtain ⟨-, hevents⟩ := Prod.mk.inj (Option.some.inj htells)
    rw [hquits.events] at hevents
    exact nomatch hevents
  · exact nomatch hskips
  · have hrun : setup.run.run s = some (.ok (), s') := hrenews.returns
    rw [hrun, Option.map_some, Option.map_some, hrenews.table] at htells
    obtain ⟨hsnippets, hevents⟩ := Prod.mk.inj (Option.some.inj htells)
    have hchanged : Renewed [t] { s' with settings := c } := hs'.meanwhile rfl
    have hframed : s.Framed s' := (keeps_setup s s (.refl s)).of_eq_some hrun
    obtain ⟨-, hreload, -⟩ := renewed_all_or_nothing hchanged (hframed.bus ▸ hquiet) 329
    rcases hreload with ⟨f, s'', hquits, hs''⟩ | ⟨t', s'', hrenews', -⟩
    · exact ⟨s, s', s'', t, c, f, hs, hquiet, hrenews, hsnippets, hs'.counted.each 0 t rfl, hevents,
        hs', hquits, hs''⟩
    · have hunbuilt : (reloadWith (emit 330)).run.run { s' with settings := c } = _ :=
        run_reloadWith_unbuilt rfl rfl
      exact nomatch hunbuilt.symm.trans hrenews'.returns

end Session

end Shorthand
