import Shorthand.Proofs.Keyboard.Press
import Shorthand.Proofs.Match.OneLine
import Shorthand.Proofs.Source.WellFormed
import Shorthand.Proofs.Trigger.Stages

set_option autoImplicit false
set_option relaxedAutoImplicit false

/-!
# Records on lines

When every record of a source is a line, no trigger has a line break in it. Whether triggers may
span lines then makes no difference to anything: to what is found, to what a trigger that is tried
leaves, and to any press.

The two searches are compared as edits: the one that stops at the line makes two calls more, but
what they leave is the same, and from there on both runs are the same.

## Main definitions

* `Shorthand.Edit.Agree` — two edits end with the same result and leave the same host.

## Main results

* `Shorthand.Edit.Agree.bind` — edits one after the other.
* `Shorthand.Match.agree_tryTrigger` — trying a trigger, with and without triggers that span lines.
* `Shorthand.Channel.agree_keyEdit` — what the channel of a key does, with and without.
* `Shorthand.Keyboard.press_multiline` — a press, with and without.
* `Shorthand.Source.multiline_irrelevant` — that for every source whose records are lines.
-/

namespace Shorthand

/-! ## Edits that agree -/

namespace Edit

variable {α β : Type} {e e' : Edit α} {f f' : α → Edit β} {P : α → Prop} {Q : β → Prop}

/-- Two edits agree: on every host that refuses nothing they come to an end with the same result,
which has the property `P`, and leave the same host, which refuses nothing either. -/
def Agree (e e' : Edit α) (P : α → Prop) : Prop :=
  ∀ h : Host, h.refusal = none → ∃ a h', e h = .ok a h' ∧ e' h = .ok a h' ∧ h'.refusal = none ∧ P a

/-- What comes to an end on every document agrees with itself. -/
lemma agree_of_turns (he : ∀ d, ∃ a d', e.Turns d a d') : e.Agree e fun _ => True := by
  intro h hr
  obtain ⟨a, d', hturns⟩ := he h.document
  obtain ⟨h', hrun, hh'⟩ := hturns h ⟨rfl, hr⟩
  exact ⟨a, h', hrun, hrun, hh'.refusal, trivial⟩

/-- So does what does nothing. -/
lemma agree_pure {a : α} (ha : P a) : Agree (pure a) (pure a) P :=
  fun h hr => ⟨a, h, rfl, rfl, hr, ha⟩

/-- **Edits one after the other agree** when the second ones do, for whatever the first ones end
with. -/
theorem Agree.bind (he : e.Agree e' P) (hf : ∀ a, P a → (f a).Agree (f' a) Q) :
    Agree (e >>= f) (e' >>= f') Q := by
  intro h hr
  obtain ⟨a, h₁, hrun, hrun', hr₁, ha⟩ := he h hr
  obtain ⟨b, h₂, hrest, hrest', hr₂, hb⟩ := hf a ha h₁ hr₁
  exact ⟨b, h₂, bind_eq_ok.mpr ⟨a, h₁, hrun, hrest⟩, bind_eq_ok.mpr ⟨a, h₁, hrun', hrest'⟩, hr₂, hb⟩

end Edit

open Edit

/-! ## Triggers -/

/-- The trigger of a snippet, if there is one, has no line break. -/
def Snippet.OnLine (found : Option Snippet) : Prop := ∀ s ∈ found, '\n' ∉ s.trigger

/-- Such a snippet has one of two shapes. -/
lemma Snippet.OnLine.name_shape {found : Option Snippet} (h : OnLine found) :
    ∀ s ∈ found, s.shape.name ∈ ["SLSR".toList, "SLMR".toList] := by
  intro s hs
  have hbreak : s.trigger.contains '\n' = false := by
    rw [List.contains_eq_mem, decide_eq_false_iff_not]
    exact h s hs
  simp only [Snippet.shape, hbreak]
  cases s.expansion.hasBreak <;> decide

section Lines

variable {snippets : Entries Expansion}

/-- A table without line breaks in its triggers is all on one line. -/
lemma Entries.onOneLine_eq_self (hlines : ∀ e ∈ snippets, '\n' ∉ e.1) :
    onOneLine snippets = snippets := by
  refine List.filter_eq_self.mpr fun e he => ?_
  simpa using hlines e he

namespace Match

/-- What is found at an offset is found with and without triggers that span lines. -/
lemma exists_sees_find (hlines : ∀ e ∈ snippets, '\n' ∉ e.1) (d : Document) (offset : ℤ) :
    ∃ found, (find offset snippets true).Sees d found ∧ (find offset snippets false).Sees d found ∧
      Snippet.OnLine (found.map (·.snippet)) := by
  have hline := sees_find_line d offset snippets
  rw [standing?_lineStart, Entries.onOneLine_eq_self hlines] at hline
  refine ⟨_, sees_find_multiline d offset snippets, hline, fun s hs => ?_⟩
  obtain ⟨m, hm, rfl⟩ := Option.map_eq_some_iff.mp hs
  obtain ⟨e, he, rfl⟩ := Option.map_eq_some_iff.mp hm
  exact hlines e (List.mem_of_find?_eq_some he)

/-- **Trying a trigger** does the same with and without triggers that span lines. -/
theorem agree_tryTrigger (hlines : ∀ e ∈ snippets, '\n' ∉ e.1) (offset : ℤ) :
    (tryTrigger offset snippets true).Agree (tryTrigger offset snippets false) Snippet.OnLine := by
  have hfind : (find offset snippets true).Agree (find offset snippets false)
      fun found => Snippet.OnLine (found.map (·.snippet)) := by
    intro h hr
    obtain ⟨found, hwhole, hline, honline⟩ := exists_sees_find hlines h.document offset
    exact ⟨found, h, hwhole h ⟨rfl, hr⟩, hline h ⟨rfl, hr⟩, hr, honline⟩
  refine hfind.bind fun found honline => ?_
  cases found with
  | none => exact agree_pure honline
  | some m =>
    exact (agree_of_turns fun d => ⟨_, _, turns_expand d offset m⟩).bind fun _ _ =>
      agree_pure honline

end Match

/-! ## Keys -/

namespace Channel

open Host

/-- Asking for the cursor is the same in both. -/
lemma agree_getCursor : getCursor.Agree getCursor fun _ => True :=
  agree_of_turns fun d => ⟨_, _, turns_getCursor d⟩

/-- So is indenting. -/
lemma agree_indent : indent.Agree indent fun _ => True :=
  agree_of_turns fun d => ⟨_, _, turns_indent d⟩

/-- The channel of Tab does the same with and without triggers that span lines. -/
lemma agree_tabEdit (whitespace : Bool) (hlines : ∀ e ∈ snippets, '\n' ∉ e.1) :
    (tabEdit whitespace snippets true).Agree
    (tabEdit whitespace snippets false) Snippet.OnLine := by
  refine (agree_of_turns fun d => ⟨_, _, turns_unindent d⟩).bind fun _ _ =>
    agree_getCursor.bind fun cursor _ => ?_
  refine (Match.agree_tryTrigger hlines cursor).bind fun found honline => ?_
  cases found with
  | none => exact agree_indent.bind fun _ _ => agree_pure honline
  | some s =>
    dsimp only
    split_ifs
    · exact agree_indent.bind fun _ _ => agree_pure honline
    · exact agree_pure honline

/-- So does the channel of Enter. -/
lemma agree_enterEdit (whitespace : Bool) (hlines : ∀ e ∈ snippets, '\n' ∉ e.1) :
    (enterEdit whitespace snippets true).Agree
    (enterEdit whitespace snippets false) Snippet.OnLine := by
  refine agree_getCursor.bind fun hostCursor _ => ?_
  refine (agree_of_turns fun d => ⟨_, _, turns_offsetToPos d hostCursor⟩).bind fun position _ => ?_
  obtain ⟨line, column⟩ := position
  dsimp only
  split_ifs
  · exact agree_pure nofun
  · refine (agree_of_turns fun d => ⟨_, _, turns_lineEndOffset d _⟩).bind fun offset _ => ?_
    refine (Match.agree_tryTrigger hlines offset).bind fun found honline => ?_
    cases found with
    | none =>
      exact (agree_of_turns fun d => ⟨_, _, turns_setCursor d hostCursor⟩).bind fun _ _ =>
        agree_pure honline
    | some s =>
      exact (agree_of_turns fun d => ⟨_, _,
        turns_removeBreak d offset hostCursor whitespace s⟩).bind fun _ _ =>
        agree_pure honline

/-- **The channel of every key** does the same with and without triggers that span lines. -/
theorem agree_keyEdit (c : Channel) (k : Key) (hlines : ∀ e ∈ snippets, '\n' ∉ e.1) :
    (c.keyEdit k snippets true).Agree (c.keyEdit k snippets false) Snippet.OnLine := by
  cases k with
  | space => exact agree_getCursor.bind fun cursor _ => Match.agree_tryTrigger hlines cursor
  | tab => exact agree_tabEdit _ hlines
  | enter => exact agree_enterEdit _ hlines

end Channel

end Lines

/-! ## Presses -/

variable {t : Table} {h : Host}

/-- A press that was delivered does the same with and without triggers that span lines. -/
lemma Dispatcher.dispatch_multiline (hlines : ∀ e ∈ t.snippets, '\n' ∉ e.1)
    (dispatcher : Dispatcher) (p : KeyPress) (hr : h.refusal = none) :
    ∃ (result : KeyResult) (dispatcher' : Dispatcher) (h' : Host),
      h'.refusal = none ∧ Snippet.OnLine result.snippet ∧
        ∀ multiline, { dispatcher with multiline }.dispatch t p h =
          (result, { dispatcher' with multiline }, h') := by
  -- where a press goes is a matter of the keys alone
  cases hroute : dispatcher.route p with
  | none =>
    refine ⟨{}, dispatcher, h, hr, nofun, fun multiline => ?_⟩
    exact dispatch_of_not_routed (d := { dispatcher with multiline }) hroute t h
  | some k =>
    obtain ⟨found, h', hwhole, hline, hr', honline⟩ :=
      (dispatcher.channel k).agree_keyEdit k hlines h hr
    refine ⟨⟨true, found⟩, dispatcher.setChannel { dispatcher.channel k with phase := .done } k, h',
      hr', honline, fun multiline => ?_⟩
    have hrun : (dispatcher.channel k).keyEdit k t.snippets multiline h = .ok found h' := by
      cases multiline with
      | true => exact hwhole
      | false => exact hline
    have hroute' : { dispatcher with multiline }.route p = some k := hroute
    have hchannel : { dispatcher with multiline }.channel k = dispatcher.channel k := by
      cases k <;> rfl
    rw [dispatch_of_routed hroute' t h, hchannel]
    dsimp only
    rw [hrun]
    cases k <;> rfl

namespace Keyboard

/-- **Every press** does the same with and without triggers that span lines. -/
theorem press_multiline (hlines : ∀ e ∈ t.snippets, '\n' ∉ e.1) (dispatcher : Dispatcher)
    (p : KeyPress) (hr : h.refusal = none) :
    ∃ (result : KeyResult) (dispatcher' : Dispatcher) (h' : Host), Snippet.OnLine result.snippet ∧
      ∀ multiline, press { dispatcher with multiline } t p h =
        (.ok result, { dispatcher' with multiline }, h') := by
  obtain ⟨d₁, hbefore⟩ := exists_turns_before p.key h.document
  obtain ⟨h₁, hrun₁, hh₁⟩ := hbefore h ⟨rfl, hr⟩
  obtain ⟨result, dispatcher', h₂, hr₂, honline, hdispatch⟩ :=
    Dispatcher.dispatch_multiline hlines dispatcher p hh₁.refusal
  obtain ⟨d₃, hafter⟩ := exists_turns_after p.key h₂.document
  obtain ⟨h₃, hrun₃, -⟩ := hafter h₂ ⟨rfl, hr₂⟩
  refine ⟨result, dispatcher', h₃, honline, fun multiline => ?_⟩
  simp only [press, hrun₁, hdispatch multiline, hrun₃]

end Keyboard

/-! ## Sources whose records are lines -/

namespace Source

variable {between parts : Text}

/-- There is no line break in a trigger when records are lines. -/
lemma break_not_mem_of_parse (hbetween : between = Divider.newlineMark ∨ between = ['\n'])
    {parts : Divider} {source : Text} {r : Reading}
    (hparse : parse (.text between) parts source = .ok r) :
    ∀ e ∈ r.snippets, '\n' ∉ e.1 := by
  intro e he hbreak
  have hundivided := ((wellFormed_parse hparse).entries e he).undivided
  change ¬Divider.resolved between <:+: e.1 at hundivided
  rw [Divider.resolved_eq_break_iff.mpr hbetween, List.singleton_infix_iff] at hundivided
  exact hundivided hbreak

/-- **With one record on a line it does not matter whether triggers may span lines.** Such a
source can be read, no trigger that it gives has a line break, and with and without triggers that
span lines the same is found at every offset, trying a trigger returns the same and leaves the
same host, and so does every press, in whatever modes and phases the keys are. -/
theorem multiline_irrelevant (hbetween : between = Divider.newlineMark ∨ between = ['\n'])
    (hparts : parts ≠ []) (source : Text) :
    ∃ r, parse (.text between) (.text parts) source = .ok r ∧ (∀ e ∈ r.snippets, '\n' ∉ e.1) ∧
      ∀ h : Host, h.refusal = none →
        (∀ offset, ∃ found, Match.find offset r.snippets true h = .ok found h ∧
          Match.find offset r.snippets false h = .ok found h) ∧
        (∀ offset, ∃ found h', Match.tryTrigger offset r.snippets true h = .ok found h' ∧
          Match.tryTrigger offset r.snippets false h = .ok found h' ∧
          ∀ s ∈ found, s.shape.name ∈ ["SLSR".toList, "SLMR".toList]) ∧
        ∀ (dispatcher : Dispatcher) (t : Table) (p : KeyPress), t.snippets = r.snippets →
          ∃ (result : KeyResult) (dispatcher' : Dispatcher) (h' : Host),
            Keyboard.press { dispatcher with multiline := true } t p h =
                (.ok result, { dispatcher' with multiline := true }, h') ∧
              Keyboard.press { dispatcher with multiline := false } t p h =
                (.ok result, { dispatcher' with multiline := false }, h') ∧
              ∀ s ∈ result.snippet, s.shape.name ∈ ["SLSR".toList, "SLMR".toList] := by
  have hparse := parse_text (Divider.ne_nil_of_resolved hbetween) hparts source
  have hlines := break_not_mem_of_parse hbetween hparse
  refine ⟨_, hparse, hlines, fun h hr => ⟨fun offset => ?find, fun offset => ?tried, ?press⟩⟩
  case find =>
    obtain ⟨found, hwhole, hline, -⟩ := Match.exists_sees_find hlines h.document offset
    exact ⟨found, hwhole h ⟨rfl, hr⟩, hline h ⟨rfl, hr⟩⟩
  case tried =>
    obtain ⟨found, h', hwhole, hline, -, honline⟩ := Match.agree_tryTrigger hlines offset h hr
    exact ⟨found, h', hwhole, hline, honline.name_shape⟩
  case press =>
    rintro dispatcher t p ht
    rw [← ht] at hlines
    obtain ⟨result, dispatcher', h', honline, hpress⟩ :=
      Keyboard.press_multiline hlines dispatcher p hr
    exact ⟨result, dispatcher', h', hpress true, hpress false, honline.name_shape⟩

/-- Enter at the end of the second of two lines, with a table of one trigger whose expansion has
two lines and a line that defines nothing. -/
theorem multiline_irrelevant_enter :
    let source := "ab=c%\\nd\n=e".toList
    let dispatcher : Dispatcher := { enter := { mode := .enabled } }
    let h : Host := { document := { text := "x\nab".toList, cursor := 4 } }
    ∃ (r : Reading) (result : KeyResult) (dispatcher' : Dispatcher) (h' : Host),
      parse (.text Divider.newlineMark) (.text ['=']) source = .ok r ∧
        Keyboard.press { dispatcher with multiline := true } { snippets := r.snippets }
          { key := Key.enter.name } h =
          (.ok result, { dispatcher' with multiline := true }, h') ∧
        Keyboard.press { dispatcher with multiline := false } { snippets := r.snippets }
          { key := Key.enter.name } h =
          (.ok result, { dispatcher' with multiline := false }, h') ∧
        result.snippet.map (·.shape.name) = some "SLMR".toList ∧
        h'.document = { text := "x\nc\nd".toList, cursor := 5 } := by
  intro source dispatcher h
  obtain ⟨r, hparse, -, hall⟩ := multiline_irrelevant (.inl rfl) (List.cons_ne_nil '=' []) source
  have hr : parse (.text Divider.newlineMark) (.text ['=']) source =
      .ok ⟨[("ab".toList, Escape.compile "c%\\nd".toList)], [⟨1, "=e".toList, .emptyTrigger⟩]⟩ := by
    decide +kernel
  rw [hr] at hparse
  cases hparse
  obtain ⟨-, -, hpress⟩ := hall h rfl
  obtain ⟨result, dispatcher', h', hwhole, hline, -⟩ :=
    hpress dispatcher { snippets := _ } { key := Key.enter.name } rfl
  refine ⟨_, result, dispatcher', h', hr, hwhole, hline, ?_⟩
  have hrun : (Keyboard.press { dispatcher with multiline := true }
      { snippets := [("ab".toList, Escape.compile "c%\\nd".toList)] }
        { key := Key.enter.name } h).1.toOption.map
        (fun result => result.snippet.map (·.shape.name)) = some (some "SLMR".toList) := by
    decide +kernel
  have hdocument : (Keyboard.press { dispatcher with multiline := true }
      { snippets := [("ab".toList, Escape.compile "c%\\nd".toList)] }
        { key := Key.enter.name } h).2.2.document =
        { text := "x\nc\nd".toList, cursor := 5 } := by decide +kernel
  rw [hwhole] at hrun hdocument
  exact ⟨Option.some.inj hrun, hdocument⟩

end Source

end Shorthand
