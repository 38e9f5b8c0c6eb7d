import Shorthand.Proofs.Keyboard.Silence
import Shorthand.Proofs.Session.Still
import Shorthand.Proofs.Session.Telling
import Shorthand.Web.Server

set_option autoImplicit false
set_option relaxedAutoImplicit false

/-!
# Expanding in a server that has answered before

All requests work on one application, and each leaves something behind: the document and the log,
the phases of the channels, what was recorded, the count of the table. An expand request reads
none of that. It brings its own document, a channel runs the same in every phase, and the snippets
are the same in every table that is made from the same settings and files.

## Main definitions

* `Shorthand.Dispatcher.Alike` — dispatchers that differ at most in the phases of their channels.
* `Shorthand.Session.Served` — a state that differs from another one at most in what requests
  leave behind.
* `Shorthand.Web.Steady` — a run that ends the same after any requests.

## Main results

* `Shorthand.Web.exists_returns_expandText` — an expansion returns the same after any requests.
* `Shorthand.Web.exists_steady_expand` — an expand request is answered the same.
-/

namespace Shorthand

/-! ## Channels -/

/-- The phase of a channel does not matter for what it does. -/
lemma Channel.keyEdit_of_mode {c c' : Channel} (h : c'.mode = c.mode) (k : Key)
    (snippets : Entries Expansion) (multiline : Bool) :
    c'.keyEdit k snippets multiline = c.keyEdit k snippets multiline := by
  cases k <;> simp only [keyEdit, keepsWhitespace, h]

namespace Dispatcher

variable {d d' d'' : Dispatcher}

/-- The dispatcher `d'` differs from `d` at most in the phases of its channels. -/
structure Alike (d d' : Dispatcher) : Prop where
  mode : ∀ k, (d'.channel k).mode = (d.channel k).mode
  multiline : d'.multiline = d.multiline

/-- A dispatcher is like itself. -/
lemma Alike.refl (d : Dispatcher) : d.Alike d := ⟨fun _ => rfl, rfl⟩

/-- One change after the other. -/
lemma Alike.trans (h : d.Alike d') (h' : d'.Alike d'') : d.Alike d'' :=
  ⟨fun k => (h'.mode k).trans (h.mode k), h'.multiline.trans h.multiline⟩

/-- A press goes to the same channel. -/
lemma Alike.route (h : d.Alike d') (p : KeyPress) : d'.route p = d.route p := by
  simp only [Dispatcher.route, Channel.isEnabled, h.mode]

/-- A channel that is done has its mode. -/
lemma alike_setChannel (d : Dispatcher) (k : Key) :
    d.Alike (d.setChannel { d.channel k with phase := .done } k) := by
  refine ⟨fun k' => ?_, by cases k <;> rfl⟩
  rw [channel_setChannel]
  split_ifs with hk
  · rw [hk]
  · rfl

/-- A press whose channel turns one document into another: the channel is done, and the host holds
the other document. -/
lemma dispatch_of_turns {p : KeyPress} {k : Key} {t : Table} {x x' : Document}
    {found : Option Snippet} (hroute : d.route p = some k)
    (hedit : ((d.channel k).keyEdit k t.snippets d.multiline).Turns x found x') {h : Host}
    (hh : h.Holds x) :
    ∃ h', d.dispatch t p h =
        ({ handled := true, snippet := found }, d.setChannel { d.channel k with phase := .done } k,
          h') ∧
      h'.Holds x' := by
  obtain ⟨h', hhandle, hh'⟩ := Channel.handle_of_turns hedit hh
  refine ⟨h', ?_, hh'⟩
  simp only [dispatch, hroute, hhandle]

end Dispatcher

/-! ## States between requests -/

/-- The same snippets, counted `n` later. -/
def Table.later (t : Table) (n : Nat) : Table := { t with generation := t.generation + n }

/-- A reload that reads the same makes the table that counts one more. -/
lemma Table.next_later (t : Table) (n : Nat) : (t.later n).next t.reading = t.later (n + 1) := rfl

namespace Session

variable {s₀ s s' : Session} {n : Nat} {d : Document}

/-- The state `s` is what `s₀` is after requests with `n` reloads: it differs from `s₀` at most in
the document, in the phases of the channels, in the count of the table, in what was recorded and
in the log. -/
structure Served (s₀ : Session) (n : Nat) (s : Session) : Prop where
  settings : s.settings = s₀.settings
  dispatcher : s₀.dispatcher.Alike s.dispatcher
  bus : s.bus = s₀.bus
  files : s.files = s₀.files
  table : s.table = s₀.table.later n

/-- No request at all. -/
lemma Served.refl (s₀ : Session) : s₀.Served 0 s₀ := ⟨rfl, .refl _, rfl, rfl, rfl⟩

/-- The snippets are the same. -/
lemma Served.snippets (hs : s₀.Served n s) : s.table.snippets = s₀.table.snippets := by
  rw [hs.table]
  rfl

/-- What is done to the document. -/
lemma Served.edited (hs : s₀.Served n s) (h : Host) : s₀.Served n { s with host := h } :=
  ⟨hs.settings, hs.dispatcher, hs.bus, hs.files, hs.table⟩

/-- What onlookers do. -/
lemma Served.watched (hs : s₀.Served n s) (hw : s.Watched s') : s₀.Served n s' := by
  obtain ⟨hframed, htable, -⟩ := hw
  refine ⟨hframed.settings.trans hs.settings, ?_, hframed.bus.trans hs.bus,
    hframed.files.trans hs.files, htable.trans hs.table⟩
  rw [hframed.dispatcher]
  exact hs.dispatcher

/-- No handler reloads. -/
lemma Served.still (hs : s₀.Served n s) (hstill : s₀.bus.Still) : s.bus.Still := by
  rw [hs.bus]
  exact hstill

/-! ## Triggers -/

/-- **The explicit command** returns the same after any requests. -/
lemma Served.returns_trigger (hs : s₀.Served n s) (hstill : s₀.bus.Still) (hd : d.Valid)
    (hh : s.host.Holds d) :
    Run.Returns True s trigger fun found s' =>
      found = s₀.snippetAt d s₀.settings.snippets.multiline.isTrue ∧
        s'.host.document =
          d.afterMatch d.cursor (d.match? s₀.table.snippets s₀.settings.snippets.multiline.isTrue) ∧
        s₀.Served n s' := by
  have hedit := Channel.turns_spaceEdit {} hd s.table.snippets s.settings.snippets.multiline.isTrue
  rw [Channel.keyEdit] at hedit
  refine Run.returns_get_bind ((Run.returns_edit hedit hh).bind ?_)
  rintro found s₁ ⟨hfound, h, hh₁, rfl⟩
  rw [hs.table, hs.settings] at hfound hh₁
  cases found with
  | none =>
    refine (Run.returns_note _).bind ?_
    rintro - s₂ rfl
    exact Run.returns_pure ⟨hfound, hh₁.document, hs.edited _⟩
  | some snippet =>
    dsimp only
    refine (returns_tell ((hs.edited h).still hstill) _).bind fun _ s₂ hw => ?_
    exact Run.returns_pure ⟨hfound, hw.framed.document.trans hh₁.document, (hs.edited h).watched hw⟩

/-- A press that a channel takes returns what the edit of that channel finds. -/
lemma Served.returns_handleKey (hs : s₀.Served n s) (hstill : s₀.bus.Still) {p : KeyPress} {k : Key}
    {found : Option Snippet} {d' : Document} (hroute : s.dispatcher.route p = some k)
    (hedit : ((s.dispatcher.channel k).keyEdit k s.table.snippets s.dispatcher.multiline).Turns d
      found d')
    (hh : s.host.Holds d) :
    Run.Returns True s (handleKey p) fun result s' =>
      result = { handled := true, snippet := found } ∧ s'.host.Holds d' ∧ s₀.Served n s' := by
  obtain ⟨h', hdispatch, hh'⟩ := Dispatcher.dispatch_of_turns hroute hedit hh
  refine Run.returns_get_bind ?_
  rw [hdispatch]
  refine Run.returns_set_bind ?_
  -- the phase that the channel is left in is all that stays of the press, and no other press
  -- looks at it
  have hserved : s₀.Served n
      { s with
        dispatcher := s.dispatcher.setChannel { s.dispatcher.channel k with phase := .done } k
        host := h' } :=
    ⟨hs.settings, hs.dispatcher.trans (Dispatcher.alike_setChannel _ k), hs.bus, hs.files, hs.table⟩
  cases found with
  | none => exact Run.returns_pure ⟨rfl, hh', hserved⟩
  | some snippet =>
    dsimp only
    refine (returns_tell (hserved.still hstill) _).bind fun _ s₂ hw => ?_
    exact Run.returns_pure ⟨rfl, hw.framed.holds hh', hserved.watched hw⟩

/-- **A key press** that the host has delivered returns the same after any requests.

**Proof sketch.** The same channel takes it or none, and that does the same edit, for it has its
mode and the snippets are the same. -/
lemma exists_returns_handleKey (hstill : s₀.bus.Still) (hd : d.Valid) (k : Key) (shift : Bool) :
    ∃ (result : KeyResult) (d' : Document), ∀ (n : Nat) (s : Session), s₀.Served n s →
      s.host.Holds (d.delivered k) →
        Run.Returns True s (handleKey ⟨k.name, shift⟩) fun b s' =>
          b = result ∧ s'.host.Holds d' ∧ s₀.Served n s' := by
  cases hroute : s₀.dispatcher.route ⟨k.name, shift⟩ with
  | none =>
    refine ⟨{}, d.delivered k, fun n s hs hh => ?_⟩
    unfold Run.Returns
    rw [run_handleKey_of_not_routed ((hs.dispatcher.route _).trans hroute)]
    exact ⟨{}, rfl, rfl, hh, hs⟩
  | some k' =>
    obtain rfl : k = k' :=
      Option.some.inj ((Key.ofName?_name k).symm.trans (Keyboard.ofName?_of_route hroute))
    obtain ⟨d', hedit, -⟩ := Keyboard.turns_keyEdit (s₀.dispatcher.channel k) k hd s₀.table.snippets
      s₀.dispatcher.multiline
    refine ⟨{ handled := true, snippet := s₀.snippetAt d s₀.dispatcher.multiline }, d',
      fun n s hs hh => ?_⟩
    rw [← Channel.keyEdit_of_mode (hs.dispatcher.mode k), ← hs.dispatcher.multiline,
      ← hs.snippets] at hedit
    have hreturns := hs.returns_handleKey hstill ((hs.dispatcher.route _).trans hroute) hedit hh
    rw [hs.dispatcher.multiline, hs.snippets] at hreturns
    exact hreturns

/-- **The press of a key** returns the same after any requests. -/
lemma exists_returns_press (hstill : s₀.bus.Still) (hd : d.Valid) (k : Key) (shift : Bool) :
    ∃ (result : KeyResult) (d' : Document), ∀ (n : Nat) (s : Session), s₀.Served n s →
      s.host.Holds d →
        Run.Returns True s (press ⟨k.name, shift⟩) fun b s' =>
          b = result ∧ s'.host.document = d' ∧ s₀.Served n s' := by
  obtain ⟨result, d₁, hhandle⟩ := exists_returns_handleKey hstill hd k shift
  obtain ⟨d₂, hafter⟩ := Keyboard.exists_turns_after k.name d₁
  refine ⟨result, d₂, fun n s hs hh => ?_⟩
  refine (Run.returns_edit (Keyboard.turns_before hd (Key.ofName?_name k)) hh).bind ?_
  rintro - s₁ ⟨-, h₁, hh₁, rfl⟩
  refine (hhandle n _ (hs.edited h₁) hh₁).bind ?_
  rintro b s₂ ⟨rfl, hh₂, hs₂⟩
  refine (Run.returns_edit hafter hh₂).bind ?_
  rintro - s₃ ⟨-, h₃, hh₃, rfl⟩
  exact Run.returns_pure ⟨rfl, hh₃.document, hs₂.edited h₃⟩

end Session

/-! ## Requests -/

namespace Web

open Session

variable {s₀ : Session} {α : Type}

/-- After any requests to the state `s₀` the run ends with the outcome `o`, and makes no table. -/
def Steady (s₀ : Session) (r : Run α) (o : Except Failure α) : Prop :=
  ∀ (n : Nat) (s : Session), s₀.Served n s → ∃ s', r.run.run s = some (o, s') ∧ s₀.Served n s'

/-- What is done with the document that a request brings starts from a host that holds it. -/
lemma returns_opened {n : Nat} {s : Session} {r : Run α} {Q : α → Session → Prop} {text : Text}
    {cursor : Option Int} (hs : s₀.Served n s)
    (hr : ∀ s', s₀.Served n s' → s'.host.Holds (.new text cursor) → Run.Returns True s' r Q) :
    Run.Returns True s (do
      modify fun s => { s with host := { document := .new text cursor, log := s.host.log } }
      r) Q := by
  unfold Run.Returns
  rw [Run.run_modify_bind]
  exact hr _ (hs.edited _) ⟨rfl, rfl⟩

/-- **An expansion returns the same after any requests,** and leaves the same document. -/
theorem exists_returns_expandText (hstill : s₀.bus.Still) (text : Text) (q : ExpandRequest) :
    ∃ (found : Option Snippet) (d' : Document), ∀ (n : Nat) (s : Session), s₀.Served n s →
      Run.Returns True s (expandText text q) fun b s' =>
        b = found ∧ s'.host.document = d' ∧ s₀.Served n s' := by
  have hd : (Document.new text q.cursor).Valid := Document.valid_new _ _ _
  unfold expandText
  cases q.key with
  | none =>
    exact ⟨_, _, fun n s hs => returns_opened hs fun _ hs hh => hs.returns_trigger hstill hd hh⟩
  | some name =>
    dsimp only
    cases name.toText?.bind Key.ofName? with
    | none =>
      exact ⟨none, _, fun n s hs => returns_opened hs fun _ hs hh =>
        Run.returns_pure ⟨rfl, hh.document, hs⟩⟩
    | some k =>
      obtain ⟨result, d', hpress⟩ := exists_returns_press hstill hd k q.shift
      refine ⟨result.snippet, d', fun n s hs => returns_opened hs fun s₁ hs₁ hh => ?_⟩
      dsimp only
      rw [map_eq_pure_bind]
      refine (hpress n s₁ hs₁ hh).bind ?_
      rintro b s' ⟨rfl, hdocument, hs'⟩
      exact Run.returns_pure ⟨rfl, hdocument, hs'⟩

/-- What an expand request is answered when its expansion has found a snippet and left a
document. -/
def expandAnswer (q : ExpandRequest) (standIns : StandIns) (found : Option Snippet) (d : Document) :
    Except Failure Response :=
  match if q.text.hasLone then (standIns.toPoints d.text).loneRun? 0 else none with
  | some (first, position, count) => .error (.surrogatesInText first position count)
  | none => .ok ⟨200, .table (expandEntries d found)⟩

/-- The run of an expand request, with the stand-ins for its lone surrogates. -/
lemma run_expand {q : ExpandRequest} {s : Session} {standIns : StandIns}
    (hfresh : StandIns.fresh (q.text.filterMap Point.char? ++ tableText s.table) = standIns) :
    (expand q).run.run s =
      ((expandText ((q.text.toText?).getD (standIns.toText q.text)) q).run.run s).map
        fun (result, s') =>
        (result.bind fun found => expandAnswer q standIns found s'.host.document, s') := by
  rw [expand, Run.run_get_bind, Run.run_bind]
  dsimp only
  rw [hfresh]
  cases (expandText ((q.text.toText?).getD (standIns.toText q.text)) q).run.run s with
  | none => rfl
  | some r =>
    obtain ⟨result, s'⟩ := r
    cases result with
    | error f => rfl
    | ok found =>
      simp only [Option.bind_some, Option.map_some, Except.bind, expandAnswer]
      rw [Run.run_get_bind]
      generalize (if q.text.hasLone then _ else _ : Option (Nat × Nat × Nat)) = lone
      cases lone <;> rfl

/-- **An expand request is answered the same after any requests,** also when its answer cannot be
written. -/
theorem exists_steady_expand (hstill : s₀.bus.Still) (q : ExpandRequest) :
    ∃ o, Steady s₀ (expand q) o := by
  generalize hfresh : StandIns.fresh (q.text.filterMap Point.char? ++ tableText s₀.table) = standIns
  obtain ⟨found, d', hexpand⟩ :=
    exists_returns_expandText hstill ((q.text.toText?).getD (standIns.toText q.text)) q
  refine ⟨expandAnswer q standIns found d', fun n s hs => ?_⟩
  have htable : tableText s.table = tableText s₀.table := by rw [tableText, hs.snippets, tableText]
  rw [← htable] at hfresh
  obtain ⟨⟨result, s'⟩, hrun, b, rfl, rfl, rfl, hs'⟩ := (hexpand n s hs).exists_of_ends trivial
  refine ⟨s', ?_, hs'⟩
  rw [run_expand hfresh, hrun]
  rfl

end Web

end Shorthand
