import Shorthand.CommandLine.Run
import Shorthand.Proofs.Settings.LineEnds
import Shorthand.Proofs.Web.Exchange

set_option autoImplicit false
set_option relaxedAutoImplicit false

/-!
# The command and the server expand alike

A trigger can be expanded by the command, in a file or in what was typed, and by a request to the
server. The two were written apart: each decides on its own between the explicit command and a key,
and makes its own answer of what was found. They still do the same expansion, and tell the same of
it: the command with its output, its exit code and the last entry of its log, the server with the
members of its response.

They run in two applications. These are made with the same settings, of the same files and
subscriptions, but need not have the same past: what was in the document or in the log before makes
no difference. Nor need they have the same log. It can only matter while they are made: a log that
fails at one of the modes may keep one of them from being made at all.

## Main definitions

* `Shorthand.Session.make` — an application with its first table.
* `Shorthand.CommandLine.Offers` — the text that the command finds under a name.
* `Shorthand.Web.asking` — the request for a text, a cursor and a key.
* `Shorthand.CommandLine.TellAlike` — an answer, an entry in the log and a response tell the same.

## Main results

* `Shorthand.Session.exists_run_make` — two applications are made alike.
* `Shorthand.Web.asked?_of_members` — a body in which what is not meant is null.
* `Shorthand.CommandLine.expand_alike` — the command and the server expand alike.
-/

namespace Shorthand

/-- No surrogate stands alone in a text. -/
lemma Points.hasLone_ofText (s : Text) : (ofText s).hasLone = false := by
  simp [hasLone, ofText, Point.char?]

/-! ## Two applications -/

namespace Session

variable {s₀ s₀' : Session}

/-- The application is made with its settings, and then its first table. -/
def make (settings : Settings) : Run Unit := do
  start settings
  setup

/-- Two applications without a past adopt the same settings alike, if their logs do not object. -/
lemma served_adopting (hfresh : s₀.Fresh) (hfresh' : s₀'.Fresh) (hbus : s₀'.bus = s₀.bus)
    (hfiles : s₀'.files = s₀.files) {settings : Settings}
    (hreports : (modeReports settings s₀).2 = .ok ())
    (hreports' : (modeReports settings s₀').2 = .ok ()) :
    (adopting settings s₀).Served 0 (adopting settings s₀') := by
  obtain ⟨hdispatcher, htable, -⟩ := hfresh
  obtain ⟨hdispatcher', htable', -⟩ := hfresh'
  have hsame : (configured settings s₀').dispatcher = (configured settings s₀).dispatcher := by
    simp only [configured]
    rw [Dispatcher.configure_of_ok hreports, Dispatcher.configure_of_ok hreports', hdispatcher,
      hdispatcher']
  refine ⟨rfl, ?_, hbus, hfiles, htable'.trans htable.symm⟩
  rw [adopting, adopting, hsame]
  exact .refl _

/-- What the table is made from is the same. -/
lemma Served.sourceReading_eq {n : Nat} (h : s₀.Served n s₀') :
    s₀'.sourceReading = s₀.sourceReading := by
  rw [sourceReading, h.settings, h.files, sourceReading]

/-- Their first tables are made alike. -/
lemma Served.exists_run_setup (h : s₀.Served 0 s₀') (hstill : s₀.bus.Still) :
    ∃ (o : Except Failure Unit) (s s' : Session),
      setup.run.run s₀ = some (o, s) ∧ setup.run.run s₀' = some (o, s') ∧
        (o = .ok () → s₀.Framed s ∧ s.Served 0 s') := by
  obtain ⟨s, hrun, hmade⟩ := Session.exists_run_setup hstill
  obtain ⟨s', hrun', hmade'⟩ := Session.exists_run_setup (h.still hstill)
  rw [h.sourceReading_eq] at hrun' hmade'
  refine ⟨_, s, s', hrun, hrun', fun hok => ?_⟩
  cases hreads : s₀.sourceReading with
  | error f =>
    rw [hreads] at hok
    cases hok
  | ok r =>
    obtain ⟨htable, hframed⟩ := hmade r hreads
    obtain ⟨htable', hframed'⟩ := hmade' r hreads
    refine ⟨hframed, ⟨?_, ?_, ?_, ?_, ?_⟩⟩
    · exact hframed'.settings.trans (h.settings.trans hframed.settings.symm)
    · rw [hframed.dispatcher, hframed'.dispatcher]
      exact h.dispatcher
    · exact hframed'.bus.trans (h.bus.trans hframed.bus.symm)
    · exact hframed'.files.trans (h.files.trans hframed.files.symm)
    · rw [htable, htable', h.table]
      rfl

/-- The application is made, or it is not; it comes to an end. -/
lemma exists_run_make_alone (hstill : s₀.bus.Still) (settings : Settings) :
    ∃ x, (make settings).run.run s₀ = some x := by
  rw [make, Run.run_bind, run_start]
  cases (modeReports settings s₀).2 with
  | error f => exact ⟨_, rfl⟩
  | ok _ =>
    obtain ⟨s, hrun, -⟩ := exists_run_setup (s := adopting settings s₀) hstill
    exact ⟨_, hrun⟩

/-- An application whose log fails at one of the modes is not made. -/
lemma run_make_of_error {settings : Settings} {f : Failure}
    (hreports : (modeReports settings s₀).2 = .error f) :
    (make settings).run.run s₀ = some (.error f, configured settings s₀) := by
  rw [make, Run.run_bind, run_start, hreports]
  rfl

/-- Any other one has adopted its settings when it makes its table. -/
lemma run_make_of_ok {settings : Settings} (hreports : (modeReports settings s₀).2 = .ok ()) :
    (make settings).run.run s₀ = setup.run.run (adopting settings s₀) := by
  rw [make, Run.run_bind, run_start, hreports]
  rfl

/-- **Two applications are made alike** with the same settings: they differ at most in what requests
leave behind. With the same log they also fail alike. -/
theorem exists_run_make (hfresh : s₀.Fresh) (hfresh' : s₀'.Fresh) (hstill : s₀.bus.Still)
    (hbus : s₀'.bus = s₀.bus) (hfiles : s₀'.files = s₀.files) (settings : Settings) :
    ∃ (o o' : Except Failure Unit) (s s' : Session),
      (make settings).run.run s₀ = some (o, s) ∧ (make settings).run.run s₀' = some (o', s') ∧
        (s₀'.logging = s₀.logging → o' = o) ∧
          (o = .ok () → o' = .ok () → s.files = s₀.files ∧ s.bus.Still ∧ s.Served 0 s') := by
  have hsame (hlog : s₀'.logging = s₀.logging) :
      modeReports settings s₀' = modeReports settings s₀ := by
    rw [modeReports, hlog, modeReports]
  cases hreports : (modeReports settings s₀).2 with
  | error f =>
    obtain ⟨⟨o', s'⟩, hrun'⟩ := exists_run_make_alone (hbus ▸ hstill : s₀'.bus.Still) settings
    refine ⟨.error f, o', _, s', run_make_of_error hreports, hrun', fun hlog => ?_, by rintro ⟨⟩⟩
    rw [← hsame hlog] at hreports
    rw [run_make_of_error hreports] at hrun'
    cases hrun'
    rfl
  | ok _ =>
    cases hreports' : (modeReports settings s₀').2 with
    | error f =>
      obtain ⟨⟨o, s⟩, hrun⟩ := exists_run_make_alone hstill settings
      refine ⟨o, .error f, s, _, hrun, run_make_of_error hreports', fun hlog => ?_, by rintro - ⟨⟩⟩
      rw [hsame hlog, hreports] at hreports'
      cases hreports'
    | ok _ =>
      have hserved := served_adopting hfresh hfresh' hbus hfiles hreports hreports'
      obtain ⟨o, s, s', hrun, hrun', hmade⟩ := hserved.exists_run_setup hstill
      rw [← run_make_of_ok hreports] at hrun
      rw [← run_make_of_ok hreports'] at hrun'
      refine ⟨o, o, s, s', hrun, hrun', fun _ => rfl, fun hok _ => ?_⟩
      obtain ⟨hframed, hserved'⟩ := hmade hok
      refine ⟨hframed.files, ?_, hserved'⟩
      rw [hframed.bus]
      exact hstill

end Session

/-! ## The request -/

namespace Web

/-- The request to expand a trigger in a text, at a cursor if there is one, by a key without shift
or by the explicit command. -/
def asking (text : Text) (cursor : Option Int) (key : Option Key) : ExpandRequest where
  text := Points.ofText text
  cursor := cursor
  key := key.map fun k => Points.ofText k.name

/-- **A request asks for it** with a body that has the text, and the cursor and the key, each of
them null when there is none. It needs no shift. -/
theorem asked?_of_members {r : Request} {members : List (Points × Json.Tree)} {text : Text}
    {cursor : Option Int} {key : Option Key} (hroute : r.route? = some .expand)
    (hbody : readBody r.body = .ok (some (.object members)))
    (htext : (Json.Tree.object members).member? "text".toList = some (.string (Points.ofText text)))
    (hcursor : (Json.Tree.object members).member? "cursor".toList = some (cursor.elim .null .int))
    (hkey : (Json.Tree.object members).member? "key".toList =
      some (key.elim .null fun k => .string (Points.ofText k.name)))
    (hshift : (Json.Tree.object members).member? "shift".toList = none) :
    r.asked? = some (asking text cursor key) := by
  have hread : ExpandRequest.ofTree (some (.object members)) = .ok (asking text cursor key) := by
    rw [ExpandRequest.ofTree, ExpandRequest.ofObject]
    simp only [readField, htext, hcursor, hkey, hshift]
    cases cursor <;> cases key <;> rfl
  rw [Request.asked?, if_pos hroute, hbody]
  simp only [Except.toOption, Option.bind_some, hread]

end Web

/-! ## The command -/

namespace CommandLine

open Session Web

variable {s s' : Session} {a : Arguments} {name stdin text : Text}

/-- The command finds the text under a name: what was typed under a dash, else the contents of a
file. -/
inductive Offers (files : Files) (stdin : Text) : Text → Text → Prop
  | typed : Offers files stdin ['-'] stdin
  | stored {name text : Text} {bytes : List UInt8} (hdash : name ≠ ['-']) (hnul : '\x00' ∉ name)
      (hread : files.read (Path.parse name) = .ok bytes) (htext : Text.decode? bytes = some text) :
      Offers files stdin name text

/-- The expansion that the command does is that of a request. -/
lemma expandText_eq (text : Text) (cursor : Option Int) (key : Option Key) :
    expandText text cursor key = do
      let found ← Web.expandText text (asking text cursor key)
      let d := (← get).host.document
      note [.outcome (found.map (·.trigger)) d.cursor]
      return { code := if found.isSome then 0 else 1, output := d.text } := by
  cases key with
  | none => simp only [expandText, Web.expandText, asking, Option.map_none, bind_assoc]
  | some k =>
    simp only [expandText, Web.expandText, asking, Option.map_some, Points.toText?_ofText,
      Option.bind_some, Key.ofName?_name, bind_assoc]

/-- The text that the command finds is what it expands a trigger in, if it lacks no argument. -/
lemma run_expand_of_offers (hcursor : Switch.cursor ∉ a.lost) (hkey : Switch.key ∉ a.lost)
    (htext : '\r' ∉ text) (h : Offers s.files stdin name text) :
    (expand a name stdin).run.run s = (expandText text a.cursor a.key).run.run s := by
  have hasked : expandAsAsked a text = expandText text a.cursor a.key := by
    simp [expandAsAsked, hcursor, hkey]
  cases h with
  | typed => rw [expand, if_pos rfl, Text.unifyNewlines_of_notMem htext, hasked]
  | stored hdash hnul hread hdecode =>
    have hnul' : ¬name.contains '\x00' = true := by simpa using hnul
    rw [expand, if_neg hdash, if_neg hnul', Run.run_get_bind, hread]
    simp only [readText, hdecode, Text.unifyNewlines_of_notMem htext]
    exact congrArg (fun r : Run Answer => r.run.run s) hasked

/-- An answer of the command, an entry in its log and a response of the server tell the same of an
expansion: the text after it, the offset of the cursor, and the trigger if there was one. The exit
code is 0 in that case and else 1. -/
inductive TellAlike : Answer → Log.Entry → Web.Response → Prop
  | expansion (text : Text) (cursor : Nat) (trigger shape : Option Text) :
      TellAlike { code := if trigger.isSome then 0 else 1, output := text }
        (.outcome trigger cursor)
        ⟨200, .table [("text".toList, .text text), ("cursor".toList, .int cursor),
          ("triggered".toList, .bool trigger.isSome),
          ("lhs".toList, (trigger.map .text).getD .null),
          ("snippet_type".toList, (shape.map .text).getD .null)]⟩

/-- What is told of a document and what was found in it. -/
lemma tellAlike_of_found (d : Document) (found : Option Snippet) :
    TellAlike { code := if found.isSome then 0 else 1, output := d.text }
      (.outcome (found.map (·.trigger)) d.cursor) ⟨200, .table (Web.expandEntries d found)⟩ := by
  have h := TellAlike.expansion d.text d.cursor (found.map (·.trigger)) (found.map (·.shape.name))
  simp only [Option.isSome_map, Option.map_map] at h
  exact h

/-- What the command makes of an expansion that returns. -/
lemma exists_run_expandText {cursor : Option Int} {key : Option Key} {found : Option Snippet}
    {d : Document} (h : Run.Returns True s (Web.expandText text (asking text cursor key)) fun b t =>
      b = found ∧ t.host.document = d) :
    ∃ t, (expandText text cursor key).run.run s =
        some (.ok { code := if found.isSome then 0 else 1, output := d.text }, t) ∧
      t.host.log.getLast? = some (.outcome (found.map (·.trigger)) d.cursor) := by
  obtain ⟨⟨_, t⟩, hrun, _, rfl, rfl, rfl⟩ := h.exists_of_ends trivial
  rw [expandText_eq, Run.run_bind, hrun]
  exact ⟨_, rfl, List.getLast?_concat⟩

/-- What the server makes of an expansion that returns. -/
lemma exists_run_request {cursor : Option Int} {key : Option Key} {found : Option Snippet}
    {d : Document} (h : Run.Returns True s (Web.expandText text (asking text cursor key)) fun b t =>
      b = found ∧ t.host.document = d) :
    ∃ t, (Web.expand (asking text cursor key)).run.run s =
      some (.ok ⟨200, .table (Web.expandEntries d found)⟩, t) := by
  obtain ⟨⟨_, t⟩, hrun, _, rfl, rfl, rfl⟩ := h.exists_of_ends trivial
  have htext : (asking text cursor key).text.toText? = some text := Points.toText?_ofText text
  have hlone : (asking text cursor key).text.hasLone = false := Points.hasLone_ofText text
  refine ⟨t, ?_⟩
  rw [Web.run_expand rfl, htext, Option.getD_some, hrun]
  simp only [Option.map_some, Except.bind, Web.expandAnswer, hlone]
  rfl

/-- **The command and the server expand alike.** Two applications without a past are made with the
same settings, of the same files and subscriptions; no handler reloads the table. If their logs
treat entries alike, both are made or both fail in the same way. If both are made, the command
expands a trigger in any text without carriage returns, with any cursor and any key or none. It
comes to its end, and so does every request to the server for the same text, cursor and key, and
they tell the same.

**Proof sketch.** An expansion returns the same in both applications, and leaves the same document
(`Web.exists_returns_expandText`). The rest of the command and of the request reads nothing else. -/
theorem expand_alike {s₀ s₀' : Session} (hfresh : s₀.Fresh) (hfresh' : s₀'.Fresh)
    (hstill : s₀.bus.Still) (hbus : s₀'.bus = s₀.bus) (hfiles : s₀'.files = s₀.files)
    (settings : Settings) :
    ∃ (o o' : Except Failure Unit) (s s' : Session),
      (make settings).run.run s₀ = some (o, s) ∧ (make settings).run.run s₀' = some (o', s') ∧
        (s₀'.logging = s₀.logging → o' = o) ∧
        (o = .ok () → o' = .ok () → ∀ (a : Arguments) (name stdin text : Text),
          Switch.cursor ∉ a.lost → Switch.key ∉ a.lost → '\r' ∉ text →
            Offers s₀.files stdin name text →
            ∃ (answer : Answer) (reported : Log.Entry) (response : Web.Response) (t t' : Session),
              (expand a name stdin).run.run s = some (.ok answer, t) ∧
                t.host.log.getLast? = some reported ∧
                  (Web.expand (asking text a.cursor a.key)).run.run s' = some (.ok response, t') ∧
                    (∀ r : Web.Request, r.asked? = some (asking text a.cursor a.key) →
                      (Web.answer r).run.run s' = some (.ok response, t')) ∧
                        TellAlike answer reported response) := by
  obtain ⟨o, o', s, s', hmake, hmake', hfail, hmade⟩ :=
    exists_run_make hfresh hfresh' hstill hbus hfiles settings
  refine ⟨o, o', s, s', hmake, hmake', hfail,
    fun hok hok' a name stdin text hcursor hkey htext hoffers => ?_⟩
  obtain ⟨hsame, hstill', hserved⟩ := hmade hok hok'
  rw [← hsame] at hoffers
  obtain ⟨found, d, hfound⟩ :=
    Web.exists_returns_expandText hstill' text (asking text a.cursor a.key)
  have hreturns (s₁ : Session) (hs₁ : s.Served 0 s₁) :
      Run.Returns True s₁ (Web.expandText text (asking text a.cursor a.key)) fun b t =>
        b = found ∧ t.host.document = d := by
    refine Leads.mono (hfound 0 s₁ hs₁) ?_
    rintro _ ⟨b, hb, hvalue, hdocument, -⟩
    exact ⟨b, hb, hvalue, hdocument⟩
  obtain ⟨t, hrun, hlast⟩ := exists_run_expandText (hreturns s (.refl s))
  obtain ⟨t', hrun'⟩ := exists_run_request (hreturns s' hserved)
  refine ⟨_, _, _, t, t', ?_, hlast, hrun', fun r hr => ?_, tellAlike_of_found d found⟩
  · rw [run_expand_of_offers hcursor hkey htext hoffers, hrun]
  · rw [answer_of_asked? hr, hrun']

/-- A press of Tab expands a trigger, for the command and for a server with another log and document
before. -/
theorem expand_alike_tab :
    ∃ (settings : Settings) (s₀ s₀' s s' : Session) (r : Web.Request) (answer : Answer)
      (reported : Log.Entry) (response : Web.Response) (t t' : Session),
      s₀.Fresh ∧ s₀'.Fresh ∧ s₀.bus.Still ∧ s₀'.host.log ≠ s₀.host.log ∧
        s₀'.logging ≠ s₀.logging ∧
          (make settings).run.run s₀ = some (.ok (), s) ∧
            (make settings).run.run s₀' = some (.ok (), s') ∧
              (expand { key := some .tab } ['-'] "ab".toList).run.run s = some (.ok answer, t) ∧
                answer.code = 0 ∧ answer.output = ['x'] ∧ t.host.log.getLast? = some reported ∧
                  r.asked? = some (asking "ab".toList none (some .tab)) ∧
                    (Web.answer r).run.run s' = some (.ok response, t') ∧
                      TellAlike answer reported response := by
  let settings : Settings :=
    { snippets :=
        { source := .text "ab=x".toList
          recordDivider := .text "\n".toList
          partDivider := .text "=".toList } }
  let s₀ : Session := { host := { document := .new [] none } }
  let s₀' : Session :=
    { logging := .strict
      host := { document := .new "before".toList (some 2), log := [.nothingAtCursor] } }
  let r : Web.Request := ⟨Web.Route.method .expand, Web.Route.path .expand,
    Text.encode "\x7b\"text\":\"ab\",\"cursor\":null,\"key\":\"tab\"\x7d".toList⟩
  have hasked : r.asked? = some (asking "ab".toList none (some .tab)) := by
    have hbody :
        ((readBody r.body).toOption.bind fun body => (ExpandRequest.ofTree body).toOption) =
          some (asking "ab".toList none (some .tab)) := by decide +kernel
    rw [Request.asked?, if_pos (Request.route?_own .expand r.body), hbody]
  have hfresh : s₀.Fresh := ⟨rfl, rfl, rfl⟩
  have hfresh' : s₀'.Fresh := ⟨rfl, rfl, rfl⟩
  obtain ⟨o, o', s, s', hmake, hmake', -, halike⟩ :=
    expand_alike hfresh hfresh' Bus.still_empty rfl rfl settings
  have hmakes : ((make settings).run.run s₀).map (·.1.isOk) = some true := by decide +kernel
  have hmakes' : ((make settings).run.run s₀').map (·.1.isOk) = some true := by decide +kernel
  have hexpands : ((make settings).run.run s₀).bind (fun x =>
      ((expand { key := some .tab } ['-'] "ab".toList).run.run x.2).map fun y =>
        y.1.toOption.map fun answer => (answer.code, answer.output)) = some (some (0, ['x'])) := by
    decide +kernel
  rw [hmake] at hmakes hexpands
  rw [hmake'] at hmakes'
  cases o with
  | error f => exact nomatch hmakes
  | ok _ =>
    cases o' with
    | error f => exact nomatch hmakes'
    | ok _ =>
      obtain ⟨answer, reported, response, t, t', hcommand, hlast, -, hanswer, htell⟩ :=
        halike rfl rfl { key := some .tab } ['-'] "ab".toList "ab".toList (by decide) (by decide)
          (by decide) .typed
      rw [Option.bind_some, hcommand] at hexpands
      obtain ⟨hcode, houtput⟩ := Prod.mk.inj (Option.some.inj (Option.some.inj hexpands))
      exact ⟨settings, s₀, s₀', s, s', r, answer, reported, response, t, t', hfresh, hfresh',
        Bus.still_empty, by decide, by decide, hmake, hmake', hcommand, hcode, houtput, hlast,
        hasked, hanswer r hasked, htell⟩

end CommandLine

end Shorthand
