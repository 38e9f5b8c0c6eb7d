import Shorthand.Proofs.Web.Expanding

set_option autoImplicit false
set_option relaxedAutoImplicit false

/-!
# Exchanges with the server

A server with an application is sent requests one after the other. One that fails is answered with
its failure, and the next one comes all the same. Requests meet only in the table, and of that
they change no more than its count: this counts the reloads, and nothing else in any answer
depends on what came before.

## Main definitions

* `Shorthand.Web.Request.route?` — the route that a request reaches.
* `Shorthand.Web.Request.Handled` — what a request can come to.
* `Shorthand.Web.Request.asked?` — the expansion that a request asks for.
* `Shorthand.Web.exchange` — requests one after the other, each with what came of it.
* `Shorthand.Web.Answered` — what a request is to be answered.

## Main results

* `Shorthand.Web.Request.handled` — a request comes to nothing else.
* `Shorthand.Web.exists_answered` — what a request is answered, after any others.
* `Shorthand.Web.exchange_answers` — what the requests of an exchange are answered.
* `Shorthand.Web.serve_unready` — a server that makes its application when that is first needed.
-/

namespace Shorthand.Web

open Session

variable {s₀ s s' : Session} {n : Nat}

/-! ## Routes -/

/-- The route that a request reaches. One that asks for another path, or in another way than the
route wants, reaches none. -/
def Request.route? (r : Request) : Option Route := (Route.ofPath r.method r.path).toOption

/-- **Every route is reached** by its own method and path. -/
theorem Request.route?_own (route : Route) (body : List UInt8) :
    Request.route? ⟨route.method, route.path, body⟩ = some route := by
  have hbare : Request.route? ⟨route.method, route.path, []⟩ = some route := by
    cases route <;> decide +kernel
  exact hbare

/-- Only an expand request has a body that may be refused. -/
lemma eq_expand_of_bodyOf {route : Route} {sent : List UInt8} {response : Response}
    (h : bodyOf route sent = .error response) : route = .expand := by
  rw [bodyOf] at h
  split_ifs at h with hroute
  exact hroute

/-! ## Requests -/

/-- The application is asked, which is made if there is none. -/
def ask (ready : Bool) (route : Route) (body : Option Json.Tree) : Run (Response × Bool) := do
  if !ready then makeApplication
  return (← respond route body, true)

/-- All that a request can come to. -/
inductive Request.Handled (r : Request) : Prop
  /-- It asks the application. -/
  | asks {route : Route} {body : Option Json.Tree} (hroute : r.route? = some route)
      (h : ∀ ready, handle ready r = ask ready route body)
  /-- It is turned away without the application. -/
  | turnedAway {response : Response} (hroute : r.route? = none ∨ r.route? = some .expand)
      (h : ∀ ready, handle ready r = pure (response, ready))

/-- A request with a route asks the application with its body. -/
lemma handle_of_bodyOf {r : Request} {route : Route} {body : Option Json.Tree}
    (hpath : Route.ofPath r.method r.path = .ok route) (hbody : bodyOf route r.body = .ok body)
    (ready : Bool) : handle ready r = ask ready route body := by
  simp only [handle, hpath, hbody]
  rfl

/-- **A request comes to nothing else.** -/
theorem Request.handled (r : Request) : r.Handled := by
  cases hpath : Route.ofPath r.method r.path with
  | error response =>
    refine @Handled.turnedAway r response (.inl ?_) fun ready => ?_
    · rw [route?, hpath]
      rfl
    · simp only [handle, hpath]
  | ok route =>
    have hroute : r.route? = some route := by rw [route?, hpath]; rfl
    cases hbody : bodyOf route r.body with
    | error response =>
      rw [eq_expand_of_bodyOf hbody] at hroute
      exact @Handled.turnedAway r response (.inr hroute) fun ready => by
        simp only [handle, hpath, hbody]
    | ok body => exact .asks hroute (handle_of_bodyOf hpath hbody)

/-! ## A server with an application -/

/-- A request to a server with an application. -/
def answer (r : Request) : Run Response := Prod.fst <$> handle true r

/-- A server with an application asks it. -/
lemma ask_true (route : Route) (body : Option Json.Tree) :
    ask true route body = (fun response => (response, true)) <$> respond route body := by
  rw [map_eq_pure_bind]
  rfl

/-- What asks the application is answered by it. -/
lemma answer_of_asks {r : Request} {route : Route} {body : Option Json.Tree}
    (h : ∀ ready, handle ready r = ask ready route body) : answer r = respond route body := by
  rw [answer, h, ask_true, Functor.map_map]
  exact id_map _

/-- What has a value did not fail. -/
lemma eq_ok_of_toOption {ε α : Type} {x : Except ε α} {a : α} (h : x.toOption = some a) :
    x = .ok a := by
  cases x with
  | error f => exact nomatch h
  | ok a' => rw [Option.some.inj h]

/-- The expansion that a request asks for. -/
def Request.asked? (r : Request) : Option ExpandRequest :=
  if r.route? = some .expand then
    (readBody r.body).toOption.bind fun body => (ExpandRequest.ofTree body).toOption
  else none

/-- Where it comes from. -/
lemma Request.exists_of_asked? {r : Request} {q : ExpandRequest} (h : r.asked? = some q) :
    r.route? = some .expand ∧ ∃ body, readBody r.body = .ok body ∧
    ExpandRequest.ofTree body = .ok q := by
  rw [asked?] at h
  split_ifs at h with hroute
  obtain ⟨body, hbody, hq⟩ := Option.bind_eq_some_iff.mp h
  exact ⟨hroute, body, eq_ok_of_toOption hbody, eq_ok_of_toOption hq⟩

/-- **A request for an expansion** is answered with it. -/
lemma answer_of_asked? {r : Request} {q : ExpandRequest} (h : r.asked? = some q) :
    answer r = expand q := by
  obtain ⟨hroute, body, hbody, hq⟩ := Request.exists_of_asked? h
  have hsent : bodyOf .expand r.body = .ok body := hbody
  rw [answer_of_asks (handle_of_bodyOf (eq_ok_of_toOption hroute) hsent), respond, hq]

/-- What is turned away leaves everything as it is. -/
lemma answer_of_turnedAway {r : Request} {response : Response}
    (h : ∀ ready, handle ready r = pure (response, ready)) : answer r = pure response := by
  rw [answer, h, map_pure]

/-- The application stays. -/
lemma run_handle_true (r : Request) (s : Session) :
    (handle true r).run.run s =
      ((answer r).run.run s).map fun (o, s') => (o.map fun response => (response, true), s') := by
  cases r.handled with
  | asks _ h => rw [answer_of_asks h, h, ask_true, Run.run_map]
  | turnedAway _ h =>
    rw [answer_of_turnedAway h, h]
    rfl

/-! ## Exchanges -/

/-- A run as one that always returns: with what came of it. -/
def attempt {α : Type} (r : Run α) : Run (Except Failure α) := ExceptT.lift r.run

/-- An attempt ends with what came of the run, and does not fail itself. -/
lemma run_attempt {α : Type} (r : Run α) (s : Session) :
    (attempt r).run.run s = (r.run.run s).map fun (o, s') => (.ok o, s') := by
  cases h : r.run.run s <;> simp [attempt, ExceptT.lift, h]

/-- Requests one after the other, to a server with an application, each with what came of it. -/
def exchange : List Request → Run (List (Except Failure Response))
  | [] => return []
  | r :: rest => do
    let o ← attempt (answer r)
    return o :: (← exchange rest)

/-- The first request of an exchange, and the rest of it. -/
lemma run_exchange_cons (r : Request) (rest : List Request) (s : Session) :
    (exchange (r :: rest)).run.run s =
      ((answer r).run.run s).bind fun (o, s₁) =>
        ((exchange rest).run.run s₁).map fun (os, s') => (os.map (o :: ·), s') := by
  rw [exchange, Run.run_bind, run_attempt]
  cases (answer r).run.run s with
  | none => rfl
  | some x =>
    obtain ⟨o, s₁⟩ := x
    simp only [Option.map_some, Option.bind_some]
    rw [← map_eq_pure_bind, Run.run_map]

/-- The server that ends with its first failure, for the first request and the rest. -/
lemma run_serve_cons (r : Request) (rest : List Request) (s : Session) :
    (serve true (r :: rest)).run.run s =
      ((answer r).run.run s).bind fun (o, s₁) =>
        match o with
        | .error f => some (.error f, s₁)
        | .ok response =>
          ((serve true rest).run.run s₁).map fun (result, s') =>
            (result.map (response :: ·), s') := by
  rw [serve, Run.run_bind, run_handle_true]
  cases (answer r).run.run s with
  | none => rfl
  | some x =>
    obtain ⟨o, s₁⟩ := x
    cases o with
    | error f => rfl
    | ok response =>
      rw [Option.map_some, Option.bind_some, Option.bind_some]
      show (serve true rest >>= fun responses => pure (response :: responses)).run.run s₁ = _
      rw [← map_eq_pure_bind, Run.run_map]

/-- **The server that ends with its first failure** answers the same up to there. -/
theorem serve_of_exchange {rs : List Request} {os : List (Except Failure Response)}
    (h : (exchange rs).run.run s = some (.ok os, s')) :
    ((serve true rs).run.run s).map Prod.fst = some (os.mapM id) := by
  induction rs generalizing s os with
  | nil =>
    cases h
    rfl
  | cons r rest ih =>
    rw [run_exchange_cons] at h
    obtain ⟨⟨o, s₁⟩, hanswer, hrest⟩ := Option.bind_eq_some_iff.mp h
    obtain ⟨⟨result, s₂⟩, hexchange, hcons⟩ := Option.map_eq_some_iff.mp hrest
    rw [run_serve_cons, hanswer, Option.bind_some]
    cases result with
    | error f => exact nomatch hcons
    | ok os' =>
      cases hcons
      cases o with
      | error f => rfl
      | ok response =>
        obtain ⟨x, hrun, hresult⟩ := Option.map_eq_some_iff.mp (ih hexchange)
        dsimp only
        rw [hrun, Option.map_some, Option.map_some, hresult, List.mapM_cons]
        cases os'.mapM id <;> rfl

/-! ## Answers -/

/-- The number of reloads among requests. -/
def reloads (rs : List Request) : Nat := rs.countP fun r => r.route? = some .reload

/-- What a request is to be answered in an exchange that starts in the state `s`, when the table
in use counts `n`. What is asked about the table tells of that count and of the snippets and the
malformed records that there are in `s`. Anything else is answered as if it were asked alone. -/
structure Answered (s : Session) (n : Nat) (r : Request) (o : Except Failure Response) : Prop where
  status : r.route? = some .status →
    o = .ok ⟨200, .table
      [("version".toList, .text version), ("status".toList, .text "running".toList),
        ("app_name".toList, .text displayName), ("snippets".toList, .int s.table.snippets.length),
        ("generation".toList, .int n)]⟩
  snippets : r.route? = some .snippets →
    o = .ok ⟨200, .table
      [("generation".toList, .int n),
        ("snippets".toList, .array (s.table.snippets.map fun (trigger, e) => .table
          [("lhs".toList, .text trigger), ("data".toList, .text e.text),
            ("cursor_end".toList, .int e.cursorBack), ("has_newline".toList, .bool e.hasBreak)])),
        ("diagnostics".toList, .array (s.table.diagnostics.map fun d => .table
          [("index".toList, .int d.index), ("record".toList, .text d.record),
            ("reason".toList, .text d.reason.message)]))]⟩
  reload : r.route? = some .reload →
    o = .ok ⟨200, .table
      [("status".toList, .text "ok".toList), ("generation".toList, .int n),
        ("snippets".toList, .array (s.table.snippets.map fun (trigger, e) => .table
          [("lhs".toList, .text trigger), ("data".toList, .text e.text),
            ("cursor_end".toList, .int e.cursorBack), ("has_newline".toList, .bool e.hasBreak)])),
        ("diagnostics".toList, .array (s.table.diagnostics.map fun d => .table
          [("index".toList, .int d.index), ("record".toList, .text d.record),
            ("reason".toList, .text d.reason.message)]))]⟩
  alone : r.route? = some .expand ∨ r.route? = none →
    ∃ s', (exchange [r]).run.run s = some (.ok [o], s')

/-- What is answered about the table does not matter for other requests. -/
lemma answered_of_alone {r : Request} {o : Except Failure Response}
    (hroute : r.route? = none ∨ r.route? = some .expand)
    (h : (answer r).run.run s = some (o, s')) : Answered s n r o := by
  have halone : ∃ s', (exchange [r]).run.run s = some (.ok [o], s') := by
    rw [run_exchange_cons, h]
    exact ⟨_, rfl⟩
  obtain hroute | hroute := hroute <;> constructor <;> simp [hroute, halone]

/-- **A reload after any requests** makes the table that counts one more. -/
lemma returns_respond_reload (hstill : s₀.bus.Still) (hreadable : s₀.Readable) (hs : s₀.Served n s)
    (body : Option Json.Tree) :
    Run.Returns True s (respond .reload body) fun response s' =>
      response = ⟨200, .table
          (("status".toList, .text "ok".toList) :: tableEntries (s₀.table.later (n + 1)))⟩ ∧
        s₀.Served (n + 1) s' := by
  obtain ⟨key, hkey, hreading⟩ := hreadable
  rw [← hs.settings, ← hs.files] at hkey
  refine (returns_reload (hs.still hstill) hkey hreading).bind ?_
  rintro t s' ⟨rfl, htable, hframed⟩
  rw [hs.table, Table.next_later] at htable ⊢
  refine Run.returns_pure ⟨rfl, ?_⟩
  refine ⟨hframed.settings.trans hs.settings, ?_, hframed.bus.trans hs.bus,
    hframed.files.trans hs.files, htable⟩
  rw [hframed.dispatcher]
  exact hs.dispatcher

/-- A request that changes nothing is answered the same after any others. -/
lemma steady_of_idle {α : Type} {r : Run α} {o : Except Failure α}
    (h : ∀ s, r.run.run s = some (o, s)) :
    Steady s₀ r o := fun _ s hs => ⟨s, h s, hs⟩

/-- A body that is refused changes nothing. -/
lemma exists_run_refuse (fs : List Finding) :
    ∃ o : Except Failure Response, ∀ s, (refuse fs).run.run s = some (o, s) := by
  unfold refuse
  dsimp only
  split_ifs <;> exact ⟨_, fun _ => rfl⟩

/-- **Any other request is answered the same after any requests,** also when it is turned away. -/
theorem exists_steady_answer (hstill : s₀.bus.Still) {r : Request}
    (hroute : r.route? = none ∨ r.route? = some .expand) : ∃ o, Steady s₀ (answer r) o := by
  cases r.handled with
  | @asks route body hasked h =>
    obtain rfl : route = .expand := by simpa [hasked] using hroute
    rw [answer_of_asks h, respond]
    cases ExpandRequest.ofTree body with
    | ok q => exact exists_steady_expand hstill q
    | error fs =>
      obtain ⟨o, ho⟩ := exists_run_refuse fs
      exact ⟨o, steady_of_idle ho⟩
  | turnedAway _ h =>
    rw [answer_of_turnedAway h]
    exact ⟨_, steady_of_idle fun _ => rfl⟩

/-- A request that reaches a route other than that of expansions asks the application. -/
lemma answer_of_route {r : Request} {route : Route} (hroute : r.route? = some route)
    (hexpand : route ≠ .expand) :
    ∃ body, answer r = respond route body := by
  cases r.handled with
  | @asks route' body hasked h =>
    obtain rfl : route = route' := Option.some.inj (hroute.symm.trans hasked)
    exact ⟨body, answer_of_asks h⟩
  | turnedAway hturned _ =>
    rw [hroute] at hturned
    simp [hexpand] at hturned

/-- Only a reload counts as one. -/
lemma reloads_singleton (r : Request) : reloads [r] = if r.route? = some .reload then 1 else 0 := by
  simp [reloads, List.countP_cons]

/-- **What a request is answered, after any others** with `n` reloads.

**Proof sketch.** The table in use is what `n` reloads make of the first one, and what the others
read of the state is what it was. So a request about the table tells of that, a reload makes the
next one, and any other request is answered as in the first state. -/
theorem exists_answered (hstill : s₀.bus.Still) (hreadable : s₀.Readable) (hs : s₀.Served n s)
    (r : Request) :
    ∃ (o : Except Failure Response) (s' : Session), (answer r).run.run s = some (o, s') ∧
      Answered s₀ (s₀.table.generation + (n + reloads [r])) r o ∧
      s₀.Served (n + reloads [r]) s' := by
  have hother (hroute : r.route? = none ∨ r.route? = some .expand) :
      ∃ (o : Except Failure Response) (s' : Session), (answer r).run.run s = some (o, s') ∧
        Answered s₀ (s₀.table.generation + (n + 0)) r o ∧ s₀.Served (n + 0) s' := by
    obtain ⟨o, hsteady⟩ := exists_steady_answer hstill hroute
    obtain ⟨s', hrun, hserved⟩ := hsteady n s hs
    obtain ⟨_, halone, -⟩ := hsteady 0 s₀ (.refl s₀)
    exact ⟨o, s', hrun, answered_of_alone hroute halone, hserved⟩
  rw [reloads_singleton]
  cases hroute : r.route? with
  | none => exact hother (.inl hroute)
  | some route =>
    cases route with
    | expand => exact hother (.inr hroute)
    | status =>
      obtain ⟨body, hanswer⟩ := answer_of_route hroute (by decide)
      have hrun : (answer r).run.run s =
          some (.ok ⟨200, .table (statusEntries (s₀.table.later n))⟩, s) := by
        rw [hanswer, ← hs.table]
        rfl
      refine ⟨_, s, hrun, ⟨fun _ => rfl, ?_, ?_, ?_⟩, hs⟩
      all_goals simp [hroute]
    | snippets =>
      obtain ⟨body, hanswer⟩ := answer_of_route hroute (by decide)
      have hrun : (answer r).run.run s =
          some (.ok ⟨200, .table (tableEntries (s₀.table.later n))⟩, s) := by
        rw [hanswer, ← hs.table]
        rfl
      refine ⟨_, s, hrun, ⟨?_, fun _ => rfl, ?_, ?_⟩, hs⟩
      all_goals simp [hroute]
    | reload =>
      obtain ⟨body, hanswer⟩ := answer_of_route hroute (by decide)
      obtain ⟨⟨result, s'⟩, hrun, response, rfl, rfl, hserved⟩ :=
        (returns_respond_reload hstill hreadable hs body).exists_of_ends trivial
      rw [← hanswer] at hrun
      refine ⟨_, s', hrun, ⟨?_, ?_, fun _ => rfl, ?_⟩, hserved⟩
      all_goals simp [hroute]

/-- **What requests are answered, after any others** with `n` reloads: each as if the reloads up
to it were all that has happened. -/
theorem exists_run_exchange (hstill : s₀.bus.Still) (hreadable : s₀.Readable) (hs : s₀.Served n s)
    (rs : List Request) :
    ∃ (os : List (Except Failure Response)) (s' : Session),
      (exchange rs).run.run s = some (.ok os, s') ∧ os.length = rs.length ∧
        ∀ i r, rs[i]? = some r → ∃ o, os[i]? = some o ∧
          Answered s₀ (s₀.table.generation + (n + reloads (rs.take (i + 1)))) r o := by
  induction rs generalizing n s with
  | nil => exact ⟨[], s, rfl, rfl, by simp⟩
  | cons r rest ih =>
    obtain ⟨o, s₁, hanswer, hanswered, hs₁⟩ := exists_answered hstill hreadable hs r
    obtain ⟨os, s', hexchange, hlength, hrest⟩ := ih hs₁
    refine ⟨o :: os, s', ?_, congrArg (· + 1) hlength, fun i r' hr' => ?_⟩
    · rw [run_exchange_cons, hanswer, Option.bind_some]
      dsimp only
      rw [hexchange]
      rfl
    · cases i with
      | zero =>
        cases hr'
        exact ⟨o, rfl, hanswered⟩
      | succ i =>
        obtain ⟨o', ho', hanswered'⟩ := hrest i r' hr'
        refine ⟨o', ho', ?_⟩
        have hcount : reloads ([r] ++ rest.take (i + 1)) =
            reloads [r] + reloads (rest.take (i + 1)) :=
          List.countP_append
        rw [List.take_succ_cons, ← List.singleton_append]
        rw [hcount, ← Nat.add_assoc n]
        exact hanswered'

/-- **What the requests of an exchange are answered.** An application that is set up, with fixed
settings and files, is sent any requests in any order, and each is answered in its turn; a server
that ends with its first failure answers the same up to there. What is asked about the table tells
of the snippets and the malformed records of the first table, and counts the reloads up to then.
Any other request, with any text, cursor, key and shift or none at all, is answered as if it had
been the only one.

**Proof sketch.** Induction on the requests. In between the state differs from the first one in
the count of the table and in what no answer depends on: the last document, the phases of the
channels, the log. -/
theorem exchange_answers (hs : s.SetUp) (rs : List Request) :
    ∃ (os : List (Except Failure Response)) (s' : Session),
      (exchange rs).run.run s = some (.ok os, s') ∧
        ((serve true rs).run.run s).map Prod.fst = some (os.mapM id) ∧
          os.length = rs.length ∧
            ∀ i r, rs[i]? = some r → ∃ o, os[i]? = some o ∧
              Answered s (1 + reloads (rs.take (i + 1))) r o := by
  obtain ⟨hstill, hreadable, hgeneration⟩ := hs.readable
  obtain ⟨os, s', hexchange, hlength, hanswered⟩ :=
    exists_run_exchange hstill hreadable (.refl s) rs
  refine ⟨os, s', hexchange, serve_of_exchange hexchange, hlength, fun i r hr => ?_⟩
  obtain ⟨o, ho, h⟩ := hanswered i r hr
  rw [hgeneration, Nat.zero_add] at h
  exact ⟨o, ho, h⟩

/-- A question about the table of an application with one snippet and one malformed record, then
the same press of Tab before and after a reload, and a question about the server. -/
theorem exchange_answers_reloaded :
    ∃ (s : Session) (snippets reload expand status : Request) (os : List (Except Failure Response))
      (s' : Session),
      s.SetUp ∧ snippets.route? = some .snippets ∧ reload.route? = some .reload ∧
        expand.route? = some .expand ∧ status.route? = some .status ∧
          (exchange [snippets, expand, reload, expand, status]).run.run s = some (.ok os, s') ∧
            os[0]? = some (.ok ⟨200, .table
              [("generation".toList, .int 1),
                ("snippets".toList, .array [.table
                  [("lhs".toList, .text "ab".toList), ("data".toList, .text "x".toList),
                    ("cursor_end".toList, .int 0), ("has_newline".toList, .bool false)]]),
                ("diagnostics".toList, .array [.table
                  [("index".toList, .int 1), ("record".toList, .text "cd".toList),
                    ("reason".toList, .text "missing part divider '='".toList)]])]⟩) ∧
            os[2]? = some (.ok ⟨200, .table
              [("status".toList, .text "ok".toList), ("generation".toList, .int 2),
                ("snippets".toList, .array [.table
                  [("lhs".toList, .text "ab".toList), ("data".toList, .text "x".toList),
                    ("cursor_end".toList, .int 0), ("has_newline".toList, .bool false)]]),
                ("diagnostics".toList, .array [.table
                  [("index".toList, .int 1), ("record".toList, .text "cd".toList),
                    ("reason".toList, .text "missing part divider '='".toList)]])]⟩) ∧
            os[4]? = some (.ok ⟨200, .table
              [("version".toList, .text version), ("status".toList, .text "running".toList),
                ("app_name".toList, .text displayName), ("snippets".toList, .int 1),
                ("generation".toList, .int 2)]⟩) ∧
            os[1]? = os[3]? ∧
              ∃ o, os[3]? = some o ∧ ∃ s', (exchange [expand]).run.run s = some (.ok [o], s') := by
  let settings : Settings :=
    { snippets :=
        { source := .text "ab=x\ncd".toList
          recordDivider := .text "\n".toList
          partDivider := .text "=".toList } }
  let s₀ : Session := { host := { document := .new [] none } }
  let request (route : Route) (body : List UInt8) : Request := ⟨route.method, route.path, body⟩
  let body : List UInt8 := Text.encode "\x7b\"text\":\"ab\",\"key\":\"tab\"\x7d".toList
  have hstart : (start settings).run.run s₀ = some (.ok (), adopting settings s₀) := by
    rw [run_start]
    rfl
  have hsetup : (setup.run.run (adopting settings s₀)).map (fun x =>
      (x.1.isOk, x.2.table.snippets, x.2.table.diagnostics)) =
      some (true, [("ab".toList, ⟨"x".toList, 0, false⟩)],
        [⟨1, "cd".toList, .missingDivider (.text "=".toList)⟩]) := by decide +kernel
  obtain ⟨⟨result, s⟩, hrun, hresult⟩ := Option.map_eq_some_iff.mp hsetup
  simp only [Prod.mk.injEq] at hresult
  obtain ⟨hok, hsnippets, hdiagnostics⟩ := hresult
  cases result with
  | error f => exact nomatch hok
  | ok _ =>
    have hs : s.SetUp := .given settings ⟨rfl, rfl, rfl⟩ Bus.still_empty hstart hrun
    have hroute (route : Route) (body : List UInt8) : (request route body).route? = some route :=
      Request.route?_own route body
    let rs := [request .snippets [], request .expand body, request .reload [],
      request .expand body, request .status []]
    obtain ⟨os, s', hexchange, -, -, hanswered⟩ := exchange_answers hs rs
    obtain ⟨o₀, ho₀, h₀⟩ := hanswered 0 _ rfl
    obtain ⟨o₁, ho₁, h₁⟩ := hanswered 1 _ rfl
    obtain ⟨o₂, ho₂, h₂⟩ := hanswered 2 _ rfl
    obtain ⟨o₃, ho₃, h₃⟩ := hanswered 3 _ rfl
    obtain ⟨o₄, ho₄, h₄⟩ := hanswered 4 _ rfl
    obtain ⟨_, halone₁⟩ := h₁.alone (.inl (hroute _ _))
    obtain ⟨s₃, halone₃⟩ := h₃.alone (.inl (hroute _ _))
    have hsame : o₁ = o₃ := by
      cases halone₁.symm.trans halone₃
      rfl
    have hnone : reloads (rs.take (0 + 1)) = 0 := by simp [rs, reloads, hroute]
    have hfirst : reloads (rs.take (2 + 1)) = 1 := by simp [rs, reloads, hroute]
    have hlast : reloads (rs.take (4 + 1)) = 1 := by simp [rs, reloads, hroute]
    refine ⟨s, _, _, _, _, os, s', hs, hroute _ _, hroute _ _, hroute _ _, hroute _ _, hexchange,
      ?_, ?_, ?_, ?_, o₃, ho₃, s₃, halone₃⟩
    · rw [ho₀, h₀.snippets (hroute _ _), hnone, hsnippets, hdiagnostics]
      rfl
    · rw [ho₂, h₂.reload (hroute _ _), hfirst, hsnippets, hdiagnostics]
      rfl
    · rw [ho₄, h₄.status (hroute _ _), hlast, hsnippets]
      rfl
    · rw [ho₁, ho₃, hsame]

/-! ## A server without an application -/

/-- The application that a server makes is set up. -/
lemma setUp_of_makeApplication (hfresh : s₀.Fresh) (hstill : s₀.bus.Still)
    (h : makeApplication.run.run s₀ = some (.ok (), s)) : s.SetUp := by
  rw [makeApplication, Run.run_bind] at h
  obtain ⟨⟨result, s₁⟩, hstart, hsetup⟩ := Option.bind_eq_some_iff.mp h
  cases result with
  | error f => exact nomatch hsetup
  | ok _ => exact .fromFile hfresh hstill hstart hsetup

/-- What comes of a run whose value something is made of. -/
lemma fst_run_map {α β : Type} (f : α → β) (r : Run α) (s : Session) :
    ((f <$> r).run.run s).map Prod.fst = ((r.run.run s).map Prod.fst).map (Except.map f) := by
  rw [Run.run_map, Option.map_map, Option.map_map]
  rfl

/-- **It makes no difference when the application is made:** a server that makes it for the first
request that needs it answers like one that was given it set up. -/
theorem serve_unready (hfresh : s₀.Fresh) (hstill : s₀.bus.Still)
    (h : makeApplication.run.run s₀ = some (.ok (), s)) (rs : List Request) :
    s.SetUp ∧ ((serve false rs).run.run s₀).map Prod.fst =
      ((serve true rs).run.run s).map Prod.fst := by
  refine ⟨setUp_of_makeApplication hfresh hstill h, ?_⟩
  induction rs with
  | nil => rfl
  | cons r rest ih =>
    rw [serve, serve, Run.run_bind, Run.run_bind]
    cases r.handled with
    | @asks route body _ hr =>
      have hask : (ask false route body).run.run s₀ = (ask true route body).run.run s := by
        show (makeApplication >>= fun _ => ask true route body).run.run s₀ = _
        rw [Run.run_bind, h, Option.bind_some]
      rw [hr, hr, hask]
    | @turnedAway response _ hr =>
      rw [hr, hr]
      show ((serve false rest >>= fun rest => pure (response :: rest)).run.run s₀).map Prod.fst =
        ((serve true rest >>= fun rest => pure (response :: rest)).run.run s).map Prod.fst
      rw [← map_eq_pure_bind, ← map_eq_pure_bind, fst_run_map, fst_run_map, ih]

end Shorthand.Web
