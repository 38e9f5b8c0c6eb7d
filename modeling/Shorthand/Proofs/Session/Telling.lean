import Shorthand.Proofs.Session.Agreement

set_option autoImplicit false
set_option relaxedAutoImplicit false

/-!
# What is told of a key press

A key press never fails, whatever the host refuses: a channel that fails is only reported. What it
expanded is told once to every handler that has subscribed. A handler may fail or reload the table
meanwhile, and a reload has events of its own, but none of them tells of a trigger.

What handlers are told shows in what they record. There may be any number of recorders among the
handlers, also none. They are told of the snippet, of its shape and of the key.

## Main definitions

* `Shorthand.Session.told` — the triggers that were recorded.
* `Shorthand.KeyResult.records` — what recorders keep of a key press.
* `Shorthand.Session.Tells` — what is told of a key press.
* `Shorthand.Session.Pressed` — the states of an application, with the keys whose channels have run.

## Main results

* `Shorthand.Dispatcher.phase_dispatch` — what a press does to the phases of the channels.
* `Shorthand.Session.leads_told_triggered` — an expanded trigger is told once to every recorder.
* `Shorthand.Session.leads_handleKey` — what a key press comes to.
* `Shorthand.Session.Pressed.phase` — in between, a channel has run or has not.
* `Shorthand.Session.Reached.exists_pressed` — every state that the application gets to is one of
  these.
* `Shorthand.Session.handleKey_tells` — a key press returns, and tells what it has expanded.
-/

namespace Shorthand

/-! ## Channels -/

namespace Dispatcher

variable {d : Dispatcher} {p : KeyPress} {k : Key}

/-- A press reaches no channel when shift is held, or its key has no channel that is enabled. -/
lemma route_eq_none_iff :
    d.route p = none ↔
      p.shift = true ∨ ∀ k, Key.ofName? p.key = some k → (d.channel k).mode = .disabled := by
  rw [route]
  cases p.shift <;> simp [Channel.isEnabled]

/-- Another channel for a key is a channel for no other key. -/
lemma channel_setChannel (d : Dispatcher) (c : Channel) (k k' : Key) :
    (d.setChannel c k').channel k = if k' = k then c else d.channel k := by
  cases k <;> cases k' <;> rfl

/-- **A press leaves the channel that takes it done,** also when it fails there, and no other
channel in another phase than before. -/
theorem phase_dispatch (d : Dispatcher) (t : Table) (p : KeyPress) (h : Host) (k : Key) :
    ((d.dispatch t p h).2.1.channel k).phase =
      if d.route p = some k then .done else (d.channel k).phase := by
  rw [dispatch]
  cases hroute : d.route p with
  | none => rfl
  | some k' =>
    have hdone := (d.channel k').handle_channel k' t.snippets d.multiline h
    dsimp only
    generalize (d.channel k').handle k' t.snippets d.multiline h = outcome at hdone
    obtain ⟨result, c, h'⟩ := outcome
    subst hdone
    simp only [Option.some.injEq]
    cases result
    all_goals
      dsimp only
      rw [channel_setChannel]
      split <;> rfl

end Dispatcher

/-! ## Recorded triggers -/

/-- The event is about an expanded trigger. -/
def Event.isTriggered : Event → Bool
  | .triggered _ _ _ => true
  | _ => false

/-- Reloads have no such event. -/
lemma Event.isTriggered_of_mem_reloadNames {e : Event} (he : e.name ∈ reloadNames) :
    e.isTriggered = false := by
  cases e with
  | triggered => exact absurd (show "snippet.triggered".toList ∈ reloadNames from he) (by decide)
  | _ => rfl

/-- How many recorders are told of an expanded trigger. -/
def Bus.recorders (b : Bus Hook) : Nat := (b.handlers "snippet.triggered".toList).count .recording

/-- What recorders keep of a key press with a result: each of them the snippet that was expanded,
with its shape and the key. -/
def KeyResult.records (result : KeyResult) (p : KeyPress) (recorders : Nat) : List Event :=
  match result.snippet with
  | none => []
  | some snippet => List.replicate recorders (.triggered snippet snippet.shape p.key)

namespace Session

variable {s s' : Session}

/-- The triggers that were recorded, in order. -/
def told (s : Session) : List Event := s.events.filter Event.isTriggered

/-- One more event was recorded. -/
lemma told_record (s : Session) (e : Event) :
    told { s with events := s.events ++ [e] } = s.told ++ if e.isTriggered then [e] else [] := by
  rw [told, List.filter_append]
  cases he : e.isTriggered <;> simp [told, he]

/-- The events of a reload tell of no trigger.

**Proof sketch.** Induction on the depth of events within events: a handler that reloads the table
again emits events of a reload. -/
lemma leads_told_reload {l : List Event} (depth : Nat) {e : Event} (he : e.name ∈ Event.reloadNames)
    (hs : s.told = l) : Leads False (fun s' => s'.told = l) (emit depth e s) := by
  induction depth generalizing e s with
  | zero => exact not_false
  | succ depth ih =>
    refine leads_emit_succ (I := fun s => s.told = l) (fun _ _ hs => hs) ?record ?reload hs
    case record =>
      intro s hs
      rw [told_record, Event.isTriggered_of_mem_reloadNames he, hs]
      exact List.append_nil l
    case reload =>
      intro _
      apply keeps_reloadWith (fun _ _ hs => hs) (fun _ _ hs => hs) (fun _ _ hs => hs)
      intro e s he hs
      exact ih he hs

/-- When the handlers `hs` have been told of the event `e` too, the triggers `l` will have been
told. -/
def Owes (e : Event) (l : List Event) (hs : List Hook) (s : Session) : Prop :=
  s.told ++ List.replicate (hs.count .recording) e = l

/-- A recorder is told of the event once. -/
lemma Owes.record {e : Event} {l : List Event} {hs : List Hook} (h : s.Owes e l (.recording :: hs))
    (he : e.isTriggered = true) : Owes e l hs { s with events := s.events ++ [e] } := by
  rw [Owes, told_record, he, if_pos rfl, List.append_assoc, List.singleton_append,
    ← List.replicate_succ, ← List.count_cons_self]
  exact h

/-- A reload tells of no trigger. -/
lemma keeps_owes_reloadWith {e : Event} {l : List Event} {hs : List Hook} (depth : Nat) :
    Run.Keeps False (Owes e l hs) (reloadWith (emit depth)) := by
  apply keeps_reloadWith (fun _ _ h => h) (fun _ _ h => h) (fun _ _ h => h)
  intro e' s he' h
  have htold : Leads False (fun s' => s'.told = s.told) (emit depth e' s) :=
    leads_told_reload depth he' rfl
  refine htold.mono fun s' hs' => ?_
  rw [Owes, hs']
  exact h

/-- **An expanded trigger is told once to every recorder,** whatever the other handlers do.

**Proof sketch.** The invariant counts the recorders among the handlers still to come: what was
told, and what these will be told, is the same all along. -/
theorem leads_told_triggered (depth : Nat) (s : Session) (snippet : Snippet) (shape : Shape)
    (key : Text) :
    Leads False
      (fun s' => s'.told = s.told ++ List.replicate s.bus.recorders (.triggered snippet shape key))
      (emit (depth + 1) (.triggered snippet shape key) s) := by
  let e : Event := .triggered snippet shape key
  let l : List Event := s.told ++ List.replicate s.bus.recorders e
  have hstart : s.Owes e l (s.bus.handlers e.name) := rfl
  have hemit : Leads False (Owes e l []) (emit (depth + 1) e s) := by
    refine leads_emit_each (fun _ _ _ h => h) ?record (fun _ _ h => h) ?reload hstart
    case record =>
      intro hs s' h
      exact h.record rfl
    case reload =>
      intro _ hs s' h
      exact keeps_owes_reloadWith depth s' h
  exact hemit.mono fun s' h => (List.append_nil _).symm.trans h

/-! ## One key press -/

/-- What is told in the state `s` of a key press with a result leads to the state `s'`. Without a
snippet nothing is told at all, and with one every recorder is told of it once. -/
structure Tells (s : Session) (p : KeyPress) (result : KeyResult) (s' : Session) : Prop where
  framed : s.Framed s'
  silent : result.snippet = none → s' = s
  told : s'.told = s.told ++ result.records p s.bus.recorders

/-- A press that no channel takes leaves everything as it is. -/
lemma run_handleKey_of_not_routed {p : KeyPress} (hroute : s.dispatcher.route p = none) :
    (handleKey p).run.run s = some (.ok {}, s) := by
  rw [run_handleKey, dispatched, Dispatcher.dispatch_of_not_routed hroute]

/-- **What a key press comes to.** It returns what the channels return. The rest is done by those
who are told of the snippet, and they are told of it once. -/
theorem leads_handleKey (p : KeyPress) (s : Session) :
    Leads (¬s.Stalls (s.dispatcher.dispatch s.table p s.host).1.snippet)
      (fun x => x.1 = .ok (s.dispatcher.dispatch s.table p s.host).1 ∧
        (s.dispatched p).Tells p (s.dispatcher.dispatch s.table p s.host).1 x.2)
      ((handleKey p).run.run s) := by
  rw [run_handleKey]
  cases hsnippet : (s.dispatcher.dispatch s.table p s.host).1.snippet with
  | none =>
    refine ⟨rfl, Framed.refl _, fun _ => rfl, ?_⟩
    rw [KeyResult.records, hsnippet]
    exact (List.append_nil _).symm
  | some snippet =>
    have hframed :=
      leads_emit_triggered 328 snippet snippet.shape p.key (Framed.refl (s.dispatched p))
    have htold := leads_told_triggered 329 (s.dispatched p) snippet snippet.shape p.key
    have hends : ¬s.Stalls (some snippet) → ¬(s.dispatched p).bus.Restless :=
      fun hstalls hrestless => hstalls ⟨rfl, hrestless⟩
    refine Leads.map (((hframed.weaken hends).and htold).mono fun s' hs' => ?_)
    refine ⟨rfl, hs'.1, (fun hnone => nomatch hsnippet.symm.trans hnone), ?_⟩
    rw [KeyResult.records, hsnippet]
    exact hs'.2

/-! ## Key presses one after the other -/

/-- The states of an application, with the keys whose channels have run, in order. Between key
presses anything may happen that leaves the phases of the channels alone. -/
inductive Pressed : List Key → Session → Prop
  | fresh {s : Session} (h : s.Fresh) : Pressed [] s
  | press {ran : List Key} {s s' : Session} {result : Except Failure KeyResult} (p : KeyPress)
      (hs : Pressed ran s) (h : (handleKey p).run.run s = some (result, s')) :
      Pressed (ran ++ (s.dispatcher.route p).toList) s'
  | meanwhile {ran : List Key} {s s' : Session} (hs : Pressed ran s)
      (hphase : ∀ k, (s'.dispatcher.channel k).phase = (s.dispatcher.channel k).phase) :
        Pressed ran s'

/-- A key press leaves the channel that takes it done. -/
lemma phase_of_handleKey {p : KeyPress} {result : Except Failure KeyResult}
    (h : (handleKey p).run.run s = some (result, s')) (k : Key) :
    (s'.dispatcher.channel k).phase =
      if s.dispatcher.route p = some k then .done else (s.dispatcher.channel k).phase := by
  obtain ⟨-, htells⟩ := (leads_handleKey p s).of_eq_some h
  rw [htells.framed.dispatcher]
  exact Dispatcher.phase_dispatch _ _ _ _ _

/-- **Between key presses a channel is done if it has run, and waits if it has not.** It is never
in between, also when it has failed. -/
theorem Pressed.phase {ran : List Key} (hs : Pressed ran s) (k : Key) :
    (s.dispatcher.channel k).phase = if k ∈ ran then .done else .awaiting := by
  induction hs with
  | fresh h =>
    rw [h.1]
    cases k <;> rfl
  | @press ran s s' result p _ h ih =>
    rw [phase_of_handleKey h, ih]
    by_cases hroute : s.dispatcher.route p = some k <;> simp [hroute]
  | meanwhile _ hphase ih => exact (hphase k).trans ih

/-- **Every state that the application gets to** has had some channels run. -/
theorem Reached.exists_pressed (hs : s.Reached) : ∃ ran, Pressed ran s := by
  have hphase (settings : Settings) (s : Session) (k : Key) :
      ((adopting settings s).dispatcher.channel k).phase = (s.dispatcher.channel k).phase := by
    have hmodes : ((configured settings s).dispatcher.channel k).phase =
        (s.dispatcher.channel k).phase := Dispatcher.phase_configure k
    cases k <;> exact hmodes
  refine hs.induction (I := fun s => ∃ ran, Pressed ran s) ?steered ?start ?adopting ?press
  case steered =>
    rintro s s' - hdispatcher - ⟨ran, h⟩
    exact ⟨ran, h.meanwhile fun k => by rw [hdispatcher]⟩
  case start =>
    intro settings s h
    exact ⟨[], (Pressed.fresh h).meanwhile (hphase settings s)⟩
  case adopting =>
    rintro settings s ⟨ran, h⟩
    exact ⟨ran, h.meanwhile (hphase settings s)⟩
  case press =>
    rintro p s s' result ⟨ran, h⟩ hrun
    exact ⟨_, h.press p hrun⟩

/-- **A key press returns, and tells what it has expanded.** After any key presses, of which some
have failed, the channels that have run are done, and the others wait. A press with shift, or of a
key that has no channel or one that is disabled, leaves everything as it is, the host included. Any
other press returns as well, whatever the host refuses and the handlers do, and every recorder keeps
the returned snippet once, with its shape and the key, if there is one; unless its events never end,
since handlers reload the table over and over. -/
theorem handleKey_tells {ran : List Key} (hs : Pressed ran s) (p : KeyPress) :
    (∀ k, (s.dispatcher.channel k).phase = if k ∈ ran then .done else .awaiting) ∧
      ((p.shift = true ∨ ∀ k, Key.ofName? p.key = some k →
        (s.dispatcher.channel k).mode = .disabled) →
        (handleKey p).run.run s = some (.ok {}, s)) ∧
      ((∃ result s', (handleKey p).run.run s = some (.ok result, s') ∧
          (result.snippet = none → s' = s.dispatched p) ∧
            s'.told = s.told ++ result.records p s.bus.recorders ∧
              Pressed (ran ++ (s.dispatcher.route p).toList) s') ∨
        (handleKey p).run.run s = none ∧ s.bus.Restless) := by
  refine ⟨hs.phase, fun h => run_handleKey_of_not_routed (Dispatcher.route_eq_none_iff.mpr h), ?_⟩
  have hpress := leads_handleKey p s
  cases hrun : (handleKey p).run.run s with
  | none =>
    rw [hrun] at hpress
    exact .inr ⟨rfl, (Classical.not_not.mp hpress).2⟩
  | some x =>
    obtain ⟨hok, htells⟩ := hpress.of_eq_some hrun
    obtain ⟨result, s'⟩ := x
    obtain rfl : result = .ok _ := hok
    exact .inl ⟨_, s', rfl, htells.silent, htells.told, hs.press p hrun⟩

/-- A space after a trigger, told to a handler that fails, to a recorder, and to a handler that
reloads the table and so empties it. -/
theorem handleKey_tells_space :
    ∃ (s s' : Session) (result : KeyResult) (p : KeyPress), Pressed [] s ∧
      (handleKey { p with shift := true }).run.run s = some (.ok {}, s) ∧
        (handleKey p).run.run s = some (.ok result, s') ∧
          result.snippet.isSome = true ∧ s'.told = result.records p 1 ∧
            s'.told = [.triggered ⟨"ab".toList, ⟨"x".toList, 0, false⟩⟩ .oneLine "space".toList] ∧
              Pressed [.space] s' := by
  let s : Session :=
    { settings := { snippets := { source := .text [] } }
      dispatcher := { space := { mode := .enabled } }
      table := { snippets := [("ab".toList, ⟨"x".toList, 0, false⟩)] }
      bus := ⟨[Hook.failing, .recording, .reloading].map (("snippet.triggered".toList, ·))⟩
      host := { document := { text := "ab".toList, cursor := 2 } } }
  let p : KeyPress := { key := "space".toList }
  have hpressed : Pressed [] s :=
    (Pressed.fresh (s := { host := s.host }) ⟨rfl, rfl, rfl⟩).meanwhile fun k => by cases k <;> rfl
  let snippet : Snippet := ⟨"ab".toList, ⟨"x".toList, 0, false⟩⟩
  have hexpands : ((handleKey p).run.run s).map (fun x =>
      (x.1.toOption.bind (·.snippet), x.2.told)) =
        some (some snippet, [.triggered snippet .oneLine p.key]) := by decide +kernel
  obtain ⟨-, -, ⟨result, s', hrun, -, htold, hpressed'⟩ | ⟨hnone, -⟩⟩ := handleKey_tells hpressed p
  · rw [hrun] at hexpands
    obtain ⟨hfound, hkept⟩ := Prod.mk.inj (Option.some.inj hexpands)
    have hsome : result.snippet.isSome = true := Option.isSome_of_mem hfound
    obtain ⟨-, hshift, -⟩ := handleKey_tells hpressed { p with shift := true }
    exact ⟨s, s', result, p, hpressed, hshift (.inl rfl), hrun, hsome, htold, hkept, hpressed'⟩
  · rw [hnone] at hexpands
    exact nomatch hexpands

end Session

end Shorthand
