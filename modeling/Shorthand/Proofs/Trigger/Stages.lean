import Shorthand.Dispatcher
import Shorthand.Proofs.Host.Refusal
import Shorthand.Proofs.Trigger.Channel

set_option autoImplicit false
set_option relaxedAutoImplicit false

/-!
# Key presses that fail half way

The channel of Tab takes the indentation of the host back before it looks for a trigger, every
channel replaces a trigger before it moves the cursor, and that of Enter goes on to remove a line
break. When the host refuses a call, nothing of what was done before is taken back. A press that
counts as not handled may therefore leave more than the document that it found: it leaves one of
those that the channel passes through, and each of these is left by some refusal.

## Main definitions

* `Shorthand.Document.replaced` — a document where a trigger was replaced, and the cursor has not
  moved yet.
* `Shorthand.Channel.stages` — the documents that the channel of a key passes through.

## Main results

* `Shorthand.Channel.passes_keyEdit` — the channel passes through these documents and no others.
* `Shorthand.Dispatcher.dispatch_unhandled` — what a press leaves that counts as not handled.
* `Shorthand.Dispatcher.not_forall_unhandled_unchanged` — it need not be what the press has found.
-/

namespace Shorthand

open Edit

/-! ## Expanding a trigger -/

/-- The document where a match at an offset was replaced, and the cursor is where the replacement
has left it. -/
def Document.replaced (d : Document) (offset : Int) (m : Match) : Document :=
  d.replaceRange m.start offset m.snippet.expansion.text

namespace Match

variable {d : Document} {n : Nat} {m : Match}

/-- Looking for a trigger only reads. -/
lemma reads_find (d : Document) (offset : Int) (snippets : Entries Expansion) (multiline : Bool) :
    (find offset snippets multiline).Reads d := by
  have hfloor : (floor offset multiline).Reads d := by
    cases multiline with
    | true => exact reads_pure d 0
    | false => exact (reads_read _ _ d).bind fun _ => reads_read _ _ d
  refine hfloor.bind fun floor => ?_
  induction snippets with
  | nil => exact reads_pure d none
  | cons entry rest ih =>
    obtain ⟨trigger, expansion⟩ := entry
    rw [findFrom]
    split_ifs
    · exact ih
    · refine (reads_read _ _ d).bind fun range => ?_
      split_ifs
      · exact reads_pure d _
      · exact ih

/-- Trying a trigger only reads when there is none. -/
lemma reads_tryTrigger (hn : n ≤ d.text.length) {snippets : Entries Expansion} {multiline : Bool}
    (hnone : ending? (d.text.take n) snippets multiline = none) :
    (tryTrigger n snippets multiline).Reads d := by
  obtain ⟨calls, hmakes, hcalls⟩ := (reads_find d n snippets multiline).makes (turns_find hn _ _)
  rw [hnone] at hmakes
  exact ⟨_, none, hmakes.bind (makes_pure d none), by rwa [List.append_nil]⟩

/-- When there is one, it is replaced before the cursor moves. -/
lemma passes_tryTrigger (hn : n ≤ d.text.length) {snippets : Entries Expansion} {multiline : Bool}
    (hm : ending? (d.text.take n) snippets multiline = some m) :
    (tryTrigger n snippets multiline).Passes d [d, d.replaced n m] (some m.snippet)
      (d.afterMatch n (some m)) := by
  obtain ⟨calls, hmakes, hcalls⟩ := (reads_find d n snippets multiline).makes (turns_find hn _ _)
  rw [hm] at hmakes
  have hexpand : (expand n m).Makes d [(.replaceRange, d), (.setCursor, d.replaced n m)] ()
      (d.afterMatch n (some m)) :=
    (Host.makes_replaceRange d _ _ _).bind ((Host.makes_setCursor _ _).bind (Host.makes_note _ _))
  have hfound : (tryTrigger n snippets multiline).Makes d _ (some m.snippet)
      (d.afterMatch n (some m)) :=
    hmakes.bind (hexpand.bind (makes_pure _ _))
  refine hfound.passes.of_mem_iff fun x => ?_
  rw [List.append_nil, List.map_append, List.mem_append]
  exact or_iff_right_of_imp fun hx => eq_of_mem_found hcalls hx ▸ List.mem_cons_self

end Match

/-! ## The channels -/

/-- What stands above the line of the cursor, if that is not the first line. -/
def Document.above? (d : Document) : Option Text :=
  let before := d.text.take d.cursor
  if '\n' ∈ before then some (before.take (before.length - (Text.lastLine before).length - 1))
  else none

/-- On the first line nothing stands above. -/
lemma Document.above?_of_not_mem {d : Document} (h : '\n' ∉ d.text.take d.cursor) :
    d.above? = none := by
  rw [above?, if_neg h]

/-- What stands above ends before the last line break before the cursor. -/
lemma Document.above?_of_eq {d : Document} {above line : Text}
    (h : d.text.take d.cursor = above ++ '\n' :: line) (hline : '\n' ∉ line) :
    d.above? = some above := by
  have hbreak : '\n' ∈ above ++ '\n' :: line := List.mem_append_right _ List.mem_cons_self
  have hlength : (above ++ '\n' :: line).length - line.length - 1 = above.length := by
    rw [List.length_append, List.length_cons]
    omega
  simp only [above?, h, if_pos hbreak, Text.lastLine_append_break _ hline, hlength, List.take_left]

/-- The documents that Enter passes through when it removes what was put in behind an expansion,
after the one that it starts with. -/
def Document.unbreaking (d : Document) (offset hostCursor : Int) (whitespace : Bool) (s : Snippet) :
    List Document :=
  let delta : Int := s.expansion.text.length - s.trigger.length
  let removed := d.replaceRange (offset + delta) (hostCursor + delta) []
  let placed := removed.setCursor d.cursor
  removed :: if whitespace then [placed, placed.replaceRange d.cursor d.cursor ['\n']] else []

namespace Channel

/-- **The documents that the channel of a key passes through.** The first one is the document that
it starts with, and what it leaves when nothing is refused need not be among them. -/
def stages (c : Channel) (k : Key) (snippets : Entries Expansion) (multiline : Bool)
    (d : Document) :
    List Document :=
  match k with
  | .space => d :: ((d.match? snippets multiline).map fun m => d.replaced d.cursor m).toList
  | .tab =>
    d :: d.unindent :: match d.unindent.match? snippets multiline with
      | none => []
      | some m =>
        d.unindent.replaced d.unindent.cursor m ::
          if c.keepsWhitespace && m.snippet.shape == Shape.oneLine then
            [d.unindent.afterMatch d.unindent.cursor (some m)]
          else []
  | .enter =>
    d :: match d.above? with
      | none => []
      | some above =>
        match Match.ending? above snippets multiline with
        | none => []
        | some m =>
          d.replaced above.length m :: d.afterMatch above.length (some m) ::
            (d.afterMatch above.length (some m)).unbreaking above.length d.cursor c.keepsWhitespace
              m.snippet

variable {d : Document}

/-- The channel of the space. -/
lemma passes_spaceEdit (c : Channel) (hd : d.Valid) (snippets : Entries Expansion)
    (multiline : Bool) :
    ∃ found d', (c.keyEdit .space snippets multiline).Passes d
      (c.stages .space snippets multiline d)
      found d' := by
  have hcursor := (Host.makes_getCursor d).passes
  have hturns := Match.turns_tryTrigger hd snippets multiline
  rw [stages, Document.match?]
  cases hm : Match.ending? (d.text.take d.cursor) snippets multiline with
  | none =>
    rw [hm] at hturns
    exact ⟨_, _, hcursor.bind_reads List.mem_cons_self (Match.reads_tryTrigger hd hm) hturns⟩
  | some m =>
    refine ⟨_, _, (hcursor.bind (Match.passes_tryTrigger hd hm)).of_mem_iff fun x => ?_⟩
    simp

/-- The channel of Tab. -/
lemma passes_tabEdit (c : Channel) (hd : d.Valid) (snippets : Entries Expansion)
    (multiline : Bool) :
    ∃ found d', (c.keyEdit .tab snippets multiline).Passes d (c.stages .tab snippets multiline d)
      found d' := by
  set u := d.unindent with hunindent
  have hu : u.Valid := Document.valid_unindent hd
  have hstart {f : Int → Edit (Option Snippet)} {stages : List Document} {found : Option Snippet}
      {d' : Document} (hf : (f u.cursor).Passes u stages found d') :
      Passes (do Host.unindent; f (← Host.getCursor)) d ([d] ++ ([u] ++ stages)) found d' :=
    (Host.passes_unindent d).bind ((Host.passes_getCursor u).bind hf)
  have hturns := Match.turns_tryTrigger hu snippets multiline
  simp only [stages, Document.match?, ← hunindent]
  cases hm : Match.ending? (u.text.take u.cursor) snippets multiline with
  | none =>
    rw [hm] at hturns
    have hreads := Match.reads_tryTrigger hu hm
    have hpasses : (c.keyEdit .tab snippets multiline).Passes d
      ([d] ++ ([u] ++ ([u] ++ []))) none u.indent :=
      hstart
        (Passes.reads_bind hreads hturns ((Host.passes_indent u).bind (passes_pure _ none))
          (by simp))
    exact ⟨_, _, hpasses.of_mem_iff fun x => by simp⟩
  | some m =>
    have htry := Match.passes_tryTrigger hu hm
    have hagain : ∃ d', Passes
        (if c.keepsWhitespace && m.snippet.shape == Shape.oneLine then do
          Host.indent
          return some m.snippet
        else return some m.snippet)
        (u.afterMatch u.cursor (some m))
        (if c.keepsWhitespace && m.snippet.shape == Shape.oneLine
          then [u.afterMatch u.cursor (some m)] else [])
        (some m.snippet) d' := by
      split_ifs
      · exact ⟨_, (Host.passes_indent _).bind (passes_pure _ _)⟩
      · exact ⟨_, passes_pure _ _⟩
    obtain ⟨d', hagain⟩ := hagain
    have hpasses : (c.keyEdit .tab snippets multiline).Passes d
        ([d] ++ ([u] ++ ([u, u.replaced u.cursor m] ++ _))) (some m.snippet) d' :=
      hstart (htry.bind hagain)
    exact ⟨_, _, hpasses.of_mem_iff fun x => by simp⟩

/-- Enter removes what was put in behind an expansion. -/
lemma passes_removeBreak (d : Document) (offset hostCursor : Int) (whitespace : Bool)
    (s : Snippet) :
    (removeBreak offset hostCursor whitespace s).Passes d
      (d :: d.unbreaking offset hostCursor whitespace s) ()
      (d.unbroken offset hostCursor whitespace s) := by
  have hcursor := Host.passes_getCursor d
  simp only [Document.unbreaking, Document.unbroken]
  cases whitespace with
  | false =>
    refine Passes.of_mem_iff (hcursor.bind ((Host.passes_replaceRange d _ _ _).bind
      ((Host.passes_setCursor _ _).bind (passes_pure _ ())))) fun x => ?_
    simp
  | true =>
    refine Passes.of_mem_iff (hcursor.bind ((Host.passes_replaceRange d _ _ _).bind
      ((Host.passes_setCursor _ _).bind ((Host.passes_replaceRange _ _ _ _).bind
        (Host.passes_setCursor _ _))))) fun x => ?_
    simp

/-- The cursor and its position are read first. -/
lemma passes_enterEdit_start (c : Channel) {snippets : Entries Expansion} {multiline : Bool}
    {found : Option Snippet} {stages : List Document} {d' : Document}
    (hf : Passes (do
      if (d.offsetToPos d.cursor).1 = 0 then return none
      let offset ← Host.lineEndOffset ((d.offsetToPos d.cursor).1 - 1 : Nat)
      match ← Match.tryTrigger offset snippets multiline with
      | none =>
        Host.setCursor d.cursor
        return none
      | some snippet =>
        removeBreak offset d.cursor c.keepsWhitespace snippet
        return some snippet) d stages found d') :
    (c.keyEdit .enter snippets multiline).Passes d (d :: stages) found d' := by
  have hposition : (Host.offsetToPos d.cursor).Passes d [d] (d.offsetToPos d.cursor) d :=
    (Host.makes_read .offsetToPos (fun d' => d'.offsetToPos d.cursor) d).passes
  have hpasses : (c.keyEdit .enter snippets multiline).Passes d ([d] ++ ([d] ++ stages)) found d' :=
    (Host.passes_getCursor d).bind (hposition.bind hf)
  exact hpasses.of_mem_iff fun x => by simp

/-- Then, unless the cursor is on the first line, the end of the line above is looked up, which
only reads. -/
lemma passes_enterEdit_above (c : Channel) (hd : d.Valid) {above line : Text}
    (hbefore : d.text.take d.cursor = above ++ '\n' :: line) (hline : '\n' ∉ line)
    {snippets : Entries Expansion} {multiline : Bool} {found : Option Snippet}
    {stages : List Document}
    {d' : Document} (hmem : d ∈ stages)
    (hf : Passes (do
      match ← Match.tryTrigger above.length snippets multiline with
      | none =>
        Host.setCursor d.cursor
        return none
      | some snippet =>
        removeBreak above.length d.cursor c.keepsWhitespace snippet
        return some snippet) d stages found d') :
    (c.keyEdit .enter snippets multiline).Passes d (d :: stages) found d' := by
  obtain ⟨-, -, hpos, hoffset⟩ := hd.line_above hbefore hline
  have hend := Host.turns_lineEndOffset d (Text.breaks above)
  rw [hoffset] at hend
  have hreads : (Host.lineEndOffset (Text.breaks above)).Reads d :=
    (reads_read _ _ d).bind fun _ => reads_read _ _ d
  apply passes_enterEdit_start
  simp only [hpos, Nat.add_one_ne_zero, if_false, Nat.add_sub_cancel]
  exact Passes.reads_bind hreads hend hf hmem

/-- The channel of Enter. -/
lemma passes_enterEdit (c : Channel) (hd : d.Valid) (snippets : Entries Expansion)
    (multiline : Bool) :
    ∃ found d', (c.keyEdit .enter snippets multiline).Passes d
      (c.stages .enter snippets multiline d)
      found d' := by
  simp only [stages]
  obtain ⟨hbreak, -⟩ | ⟨above, hbefore⟩ := Text.eq_lastLine_or (d.text.take d.cursor)
  · have hfirst : (d.offsetToPos d.cursor).1 = 0 := by
      rw [Document.offsetToPos_fst hd, Text.breaks_eq_zero.mpr hbreak]
    rw [Document.above?_of_not_mem hbreak]
    refine ⟨none, d, passes_enterEdit_start c ?_⟩
    simp only [hfirst, if_true]
    exact passes_pure d none
  · have hline := Text.break_not_mem_lastLine (d.text.take d.cursor)
    obtain ⟨hlength, htake, -⟩ := hd.line_above hbefore hline
    have hturns := Match.turns_tryTrigger hlength snippets multiline
    rw [Document.above?_of_eq hbefore hline]
    cases hm : Match.ending? above snippets multiline with
    | none =>
      rw [htake, hm] at hturns
      have hreads := Match.reads_tryTrigger hlength (htake ▸ hm)
      have hpasses := passes_enterEdit_above c hd hbefore hline List.mem_cons_self
        (Passes.reads_bind hreads hturns
          ((Host.passes_setCursor d d.cursor).bind (passes_pure _ none))
          List.mem_cons_self)
      exact ⟨_, _, hpasses.of_mem_iff fun x => by simp [hm]⟩
    | some m =>
      have htry := Match.passes_tryTrigger hlength (htake ▸ hm)
      have hremove := passes_removeBreak (d.afterMatch above.length (some m)) above.length d.cursor
        c.keepsWhitespace m.snippet
      have hpasses := passes_enterEdit_above c hd hbefore hline (by simp)
        (htry.bind (hremove.bind (passes_pure _ (some m.snippet))))
      exact ⟨_, _, hpasses.of_mem_iff fun x => by simp [hm]⟩

/-- **The channel of a key passes through its stages,** and through no other documents. -/
theorem passes_keyEdit (c : Channel) (k : Key) (hd : d.Valid) (snippets : Entries Expansion)
    (multiline : Bool) :
    ∃ found d', (c.keyEdit k snippets multiline).Passes d
      (c.stages k snippets multiline d) found d' := by
  cases k with
  | space => exact passes_spaceEdit c hd snippets multiline
  | tab => exact passes_tabEdit c hd snippets multiline
  | enter => exact passes_enterEdit c hd snippets multiline

end Channel

namespace Dispatcher

/-- A press that a channel takes does the edit of its key, and counts as handled if that ends. -/
lemma dispatch_of_routed {dispatcher : Dispatcher} {p : KeyPress} {k : Key}
    (hroute : dispatcher.route p = some k) (t : Table) (h : Host) :
    dispatcher.dispatch t p h =
      match (dispatcher.channel k).keyEdit k t.snippets dispatcher.multiline h with
      | .ok found h' =>
        (⟨true, found⟩, dispatcher.setChannel { dispatcher.channel k with phase := .done } k, h')
      | .error _ h' =>
        ({}, dispatcher.setChannel { dispatcher.channel k with phase := .done } k,
          { h' with log := h'.log ++ [.channelFailed p.key] }) := by
  rw [dispatch, hroute]
  dsimp only
  rw [Channel.handle_eq]
  cases (dispatcher.channel k).keyEdit k t.snippets dispatcher.multiline h <;> rfl

/-- **What a press leaves that counts as not handled.** When no channel takes it, nothing is done
to the host at all. When a channel takes it, a call was refused, and the document is one of those
that the channel passes through; each of them is left by some refusal. So nothing has happened for
sure only when all these documents are the one that the channel starts with. -/
theorem dispatch_unhandled (dispatcher : Dispatcher) (t : Table) (p : KeyPress) {d : Document}
    (hd : d.Valid) :
    (∀ h : Host, h.document = d → (dispatcher.dispatch t p h).1.handled = false →
      dispatcher.route p = none ∧ dispatcher.dispatch t p h = ({}, dispatcher, h) ∨
        ∃ k, dispatcher.route p = some k ∧ (dispatcher.dispatch t p h).2.2.document ∈
          (dispatcher.channel k).stages k t.snippets dispatcher.multiline d) ∧
      ∀ k, dispatcher.route p = some k →
        ∀ x ∈ (dispatcher.channel k).stages k t.snippets dispatcher.multiline d,
          ∃ r, ∀ h : Host, h.document = d → h.refusal = some r →
            (dispatcher.dispatch t p h).1.handled = false ∧
            (dispatcher.dispatch t p h).2.2.document = x := by
  refine ⟨fun h hh hunhandled => ?_, fun k hroute x hx => ?_⟩
  · cases hroute : dispatcher.route p with
    | none => exact .inl ⟨rfl, dispatch_of_not_routed hroute t h⟩
    | some k =>
      refine .inr ⟨k, rfl, ?_⟩
      obtain ⟨found, d', hpasses⟩ :=
        (dispatcher.channel k).passes_keyEdit k hd t.snippets dispatcher.multiline
      rw [dispatch_of_routed hroute] at hunhandled ⊢
      obtain ⟨h', hok⟩ | ⟨h', herror, hmem⟩ := hpasses.of_refused hh
      · rw [hok] at hunhandled
        exact nomatch hunhandled
      · rw [herror]
        exact hmem
  · obtain ⟨found, d', hpasses⟩ :=
      (dispatcher.channel k).passes_keyEdit k hd t.snippets dispatcher.multiline
    obtain ⟨r, hr⟩ := hpasses.exists_refused hx
    refine ⟨r, fun h hh hrefusal => ?_⟩
    obtain ⟨h', herror, hdocument⟩ := hr h hh hrefusal
    rw [dispatch_of_routed hroute, herror]
    exact ⟨rfl, hdocument⟩

/-- Tab behind an indentation that was typed, with a host that refuses to tell where the cursor
is: the press counts as not handled, and the indentation is gone. -/
theorem dispatch_unhandled_unindented :
    ∃ (dispatcher : Dispatcher) (d : Document) (r : Host.Refusal), d.Valid ∧
      ∀ h : Host, h.document = d → h.refusal = some r →
        (dispatcher.dispatch {} { key := Key.tab.name } h).1.handled = false ∧
          (dispatcher.dispatch {} { key := Key.tab.name } h).2.2.document ≠ d := by
  let dispatcher : Dispatcher := { tab := { mode := .enabled } }
  let d : Document := .new "ab\t".toList none
  have hd : d.Valid := Document.valid_new _ _ _
  obtain ⟨-, hleft⟩ := dispatch_unhandled dispatcher {} { key := Key.tab.name } hd
  obtain ⟨r, hr⟩ := hleft .tab (by decide) d.unindent (by decide)
  refine ⟨dispatcher, d, r, hd, fun h hh hrefusal => ?_⟩
  obtain ⟨hunhandled, hdocument⟩ := hr h hh hrefusal
  refine ⟨hunhandled, ?_⟩
  rw [hdocument]
  decide

/-- That an event which was not handled has done nothing is not so: here the host refuses the
first call that asks for its cursor. -/
theorem not_forall_unhandled_unchanged :
    ¬∀ (dispatcher : Dispatcher) (t : Table) (p : KeyPress) (h : Host), h.document.Valid →
      (dispatcher.dispatch t p h).1.handled = false →
        (dispatcher.dispatch t p h).2.2.document = h.document := by
  intro hunchanged
  have hdocument := hunchanged { tab := { mode := .enabled } } {} { key := Key.tab.name }
    { document := .new "ab\t".toList none, refusal := some ⟨.getCursor, 0⟩ }
      (Document.valid_new _ _ _) (by decide)
  exact absurd hdocument (by decide)

end Dispatcher

end Shorthand
