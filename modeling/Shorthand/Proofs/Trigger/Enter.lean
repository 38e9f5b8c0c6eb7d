import Shorthand.Proofs.Host.Kept
import Shorthand.Proofs.Keyboard.Press
import Shorthand.Proofs.Match.Order
import Shorthand.Proofs.Trigger.Stages

set_option autoImplicit false
set_option relaxedAutoImplicit false

/-!
# Enter in any document

The channel of Enter does not know what the host put in for the key. It looks for a trigger at the
end of the line above the cursor, and when it finds one, everything from there to the cursor goes:
the line break, and whatever stands before the cursor on its line. The expansion may be shorter
than its trigger, so the range that goes lies elsewhere after it; it still lies between the
expansion and the text behind the cursor.

## Main results

* `Shorthand.Match.sees_find_ending` — the search at an offset in the text.
* `Shorthand.Match.exists_places` — where a match starts, and where its expansion puts the cursor.
* `Shorthand.Channel.leaves_enterEdit_some` — what the channel leaves, with the calls that it makes.
* `Shorthand.Dispatcher.dispatch_enter` — Enter in any document.
-/

namespace Shorthand

open Edit

variable {d : Document} {snippets : Entries Expansion} {multiline whitespace : Bool} {n : Nat}
    {m : Match}

namespace Match

/-- The search at an offset in the text finds what ends the text before it, and leaves the host as
it is. -/
lemma sees_find_ending (hn : n ≤ d.text.length) (snippets : Entries Expansion) (multiline : Bool) :
    (find n snippets multiline).Sees d (ending? (d.text.take n) snippets multiline) := by
  have hsees := sees_find d n snippets multiline
  have hd : Host.Holds { document := d } d := ⟨rfl, rfl⟩
  rw [(turns_find hn snippets multiline).eq_of_ok hd (hsees _ hd)]
  exact hsees

/-- A match starts as far before the offset as its trigger is long, and the cursor of its
expansion has a place. -/
lemma exists_places (hn : n ≤ d.text.length)
    (hm : ending? (d.text.take n) snippets multiline = some m) (hp : m.snippet.expansion.Placed) :
    ∃ start cursor : Nat, m.start = start ∧ start + m.snippet.trigger.length = n ∧
      (cursor : Int) =
        start + m.snippet.expansion.text.length - m.snippet.expansion.cursorBack := by
  obtain ⟨hback, hrests⟩ := hp
  obtain ⟨-, hsuffix, hstart⟩ := ending?_eq_some hm
  have htrigger := (hsuffix.trans (reach_suffix _ _)).length_le
  rw [List.length_take_of_le hn] at hstart htrigger
  refine ⟨n - m.snippet.trigger.length, n - m.snippet.trigger.length +
      (m.snippet.expansion.text.length - m.snippet.expansion.cursorBack.toNat), hstart,
    Nat.sub_add_cancel htrigger, ?_⟩
  omega

/-- Trying a trigger where one is found: the calls that expand it, and the entry in the log. -/
lemma leaves_tryTrigger {offset : Int} (hfind : (find offset snippets multiline).Sees d (some m)) :
    (tryTrigger offset snippets multiline).Leaves d (some m.snippet) (d.afterMatch offset (some m))
      [.replaceRange m.start offset m.snippet.expansion.text,
        .setCursor (m.start + m.snippet.expansion.text.length - m.snippet.expansion.cursorBack)]
      [.expanded m.snippet.trigger m.start] := fun _ hh => run_tryTrigger_some hh hfind

end Match

/-- The line above that of the cursor ends before the cursor. -/
lemma Document.Valid.lineEndOffset_above (hd : d.Valid) {line : Nat}
    (hline : (d.offsetToPos d.cursor).1 = line + 1) :
    d.lineEndOffset line < d.cursor := by
  obtain ⟨hbreak, -⟩ | ⟨above, hbefore⟩ := Text.eq_lastLine_or (d.text.take d.cursor)
  · rw [Document.offsetToPos_fst hd, Text.breaks_eq_zero.mpr hbreak] at hline
    exact absurd hline (Nat.succ_ne_zero line).symm
  · obtain ⟨-, -, habove, hend⟩ := hd.line_above hbefore (Text.break_not_mem_lastLine _)
    obtain rfl : Text.breaks above = line := by omega
    have hlength := congrArg List.length hbefore
    rw [List.length_take_of_le hd, List.length_append, List.length_cons] at hlength
    omega

namespace Channel

/-- What the channel of Enter does after an expansion, with the calls that it makes. -/
lemma leaves_removeBreak (d : Document) (offset hostCursor : Int) (whitespace : Bool)
    (s : Snippet) :
    (removeBreak offset hostCursor whitespace s).Leaves d ()
      (d.unbroken offset hostCursor whitespace s)
      (let delta : Int := s.expansion.text.length - s.trigger.length;
        [.replaceRange (offset + delta) (hostCursor + delta) [], .setCursor d.cursor] ++
          if whitespace then [.replaceRange d.cursor d.cursor ['\n'], .setCursor (d.cursor + 1)]
          else [])
      [] := by
  refine (Host.sees_getCursor d).bind_leaves ?_
  simp only [Document.unbroken]
  split_ifs
  · exact (Host.leaves_replaceRange _ _ _ _).bind ((Host.leaves_setCursor _ _).bind
      ((Host.leaves_replaceRange _ _ _ _).bind (Host.leaves_setCursor _ _)))
  · exact (Host.leaves_replaceRange _ _ _ _).bind
      ((Host.leaves_setCursor _ _).bind (sees_pure _ ()).leaves)

/-- On the first line the channel of Enter only looks where it is. -/
lemma sees_enterEdit_first (hfirst : (d.offsetToPos d.cursor).1 = 0) :
    (enterEdit whitespace snippets multiline).Sees d none := by
  refine (Host.sees_getCursor d).bind ((Host.sees_offsetToPos d _).bind ?_)
  simp only [hfirst, if_true]
  exact sees_pure d none

/-- On any other line it tries the trigger at the end of the line above. -/
lemma leaves_enterEdit_above {line : Nat} (hline : (d.offsetToPos d.cursor).1 = line + 1)
    {found : Option Snippet} {d' : Document} {calls : List Host.Call} {log : Log}
    (htry : Leaves (do
      match ← Match.tryTrigger (d.lineEndOffset line) snippets multiline with
      | none =>
        Host.setCursor d.cursor
        return none
      | some snippet =>
        removeBreak (d.lineEndOffset line) d.cursor whitespace snippet
        return some snippet) d found d' calls log) :
    (enterEdit whitespace snippets multiline).Leaves d found d' calls log := by
  refine (Host.sees_getCursor d).bind_leaves ((Host.sees_offsetToPos d _).bind_leaves ?_)
  simp only [hline, Nat.add_one_ne_zero, if_false, Nat.add_sub_cancel]
  exact (Host.sees_lineEndOffset d line).bind_leaves htry

/-- Where one is found, what the host put in is removed. -/
lemma leaves_enterEdit_found {line stop : Nat} (hline : (d.offsetToPos d.cursor).1 = line + 1)
    (hend : d.lineEndOffset line = stop) {s : Snippet} {d₁ d₂ : Document}
    {calls more : List Host.Call} {log : Log}
    (htry : (Match.tryTrigger stop snippets multiline).Leaves d (some s) d₁ calls log)
    (hremove : (removeBreak stop d.cursor whitespace s).Leaves d₁ () d₂ more []) :
    (enterEdit whitespace snippets multiline).Leaves d (some s) d₂ (calls ++ more) log := by
  rw [← hend] at htry hremove
  rw [← List.append_nil log]
  exact leaves_enterEdit_above hline (htry.bind (hremove.bind_pure (some s)))

/-- Where no trigger ends the line above, the channel of Enter puts the cursor where it is. -/
lemma leaves_enterEdit_none (hd : d.Valid) {line : Nat}
    (hline : (d.offsetToPos d.cursor).1 = line + 1)
    (hfind : (Match.find (d.lineEndOffset line) snippets multiline).Sees d none) :
    (enterEdit whitespace snippets multiline).Leaves d none d [.setCursor d.cursor] [] := by
  have hset := (Host.leaves_setCursor d d.cursor).bind_pure (none : Option Snippet)
  rw [Document.setCursor_cursor hd] at hset
  exact leaves_enterEdit_above hline ((Match.sees_tryTrigger_none hfind).bind_leaves hset)

/-- **Where a trigger ends the line above,** its expansion comes into the place of everything from
its start to the cursor.

**Proof sketch.** The expansion is put in the place of its trigger, and the cursor rests in it
(`Match.afterMatch_eq_expanded`). So the range that goes starts where the expansion ends, and what
stood between the trigger and the cursor goes (`Document.unbroken_eq_expanded`). -/
theorem leaves_enterEdit_some (hd : d.Valid) {line stop start cursor first last : Nat}
    (hline : (d.offsetToPos d.cursor).1 = line + 1) (hend : d.lineEndOffset line = stop)
    (hstop : stop < d.cursor)
    (hm : Match.ending? (d.text.take stop) snippets multiline = some m)
    (hplaced : m.snippet.expansion.Placed) (hbegin : m.start = start)
    (hstart : start + m.snippet.trigger.length = stop)
    (hcursor : (cursor : Int) =
      start + m.snippet.expansion.text.length - m.snippet.expansion.cursorBack)
    (hfirst : first = start + m.snippet.expansion.text.length)
    (hlast : last = first + (d.cursor - stop)) :
    (enterEdit whitespace snippets multiline).Leaves d (some m.snippet)
      (let final : Document :=
        { d with
          text := d.text.take start ++ m.snippet.expansion.text ++ d.text.drop d.cursor
          cursor }
        if whitespace then final.typed ['\n'] else final)
      ([.replaceRange start stop m.snippet.expansion.text, .setCursor cursor,
          .replaceRange first last [], .setCursor cursor] ++
        if whitespace then [.replaceRange cursor cursor ['\n'], .setCursor (cursor + 1)] else [])
      [.expanded m.snippet.trigger start] := by
  obtain ⟨hback, hrests⟩ := hplaced
  have htext : stop ≤ d.text.length := Nat.le_trans hstop.le hd
  have hexpanded (b : Nat) : d.expanded start b m.snippet.expansion =
      { d with
        text := d.text.take start ++ m.snippet.expansion.text ++ d.text.drop b
        cursor } := by
    have hrest : cursor =
        start + (m.snippet.expansion.text.length - m.snippet.expansion.cursorBack.toNat) := by omega
    rw [Document.expanded, hrest]
  have hfind := Match.sees_find_ending htext snippets multiline
  rw [hm] at hfind
  have htry := Match.leaves_tryTrigger hfind
  have hremove := leaves_removeBreak
    (d.expanded start stop m.snippet.expansion) stop d.cursor whitespace m.snippet
  obtain rfl : start = stop - m.snippet.trigger.length := by omega
  rw [Match.afterMatch_eq_expanded htext hm ⟨hback, hrests⟩, hbegin, ← hcursor] at htry
  rw [Document.unbroken_eq_expanded (by omega) hstop.le hd] at hremove
  -- the ends of the range are those of the old text, moved by as much as the expansion is longer
  -- than the trigger
  have hrange₁ : (stop : Int) + (m.snippet.expansion.text.length - m.snippet.trigger.length) =
      first := by omega
  have hrange₂ : (d.cursor : Int) + (m.snippet.expansion.text.length - m.snippet.trigger.length) =
      last := by omega
  simp only [hexpanded, hrange₁, hrange₂] at htry hremove
  have hboth := leaves_enterEdit_found hline hend htry hremove
  exact hboth

end Channel

namespace Dispatcher

variable {dispatcher : Dispatcher} {t : Table} {h : Host}

/-- What the channel of a key leaves is what pressing that key leaves, and the channel is done. -/
lemma dispatch_of_leaves {k : Key} (hk : (dispatcher.channel k).mode ≠ .disabled) (hh : h.Holds d)
    {found : Option Snippet} {d' : Document} {calls : List Host.Call} {log : Log}
    (hedit : ((dispatcher.channel k).keyEdit k t.snippets dispatcher.multiline).Leaves d found d'
      calls log) :
    dispatcher.dispatch t { key := k.name } h =
      (⟨true, found⟩, dispatcher.setChannel { dispatcher.channel k with phase := .done } k,
        h.after d' calls log) := by
  rw [dispatch_of_routed (Keyboard.route_of_enabled hk), hedit h hh]

/-- **Enter in any document,** in either mode of an enabled channel and with the cursor anywhere.
On the first line, and where no trigger ends the line above, it leaves the document as it is.
Otherwise the expansion of the match comes into the place of everything from the start of the
trigger to the cursor, and the cursor is put where the expansion says; when white space stays, one
line break is put in there and the cursor goes behind it. The range that is removed after the
expansion is in order and in the text as it is then. -/
theorem dispatch_enter (henter : dispatcher.enter.mode ≠ .disabled)
    (hc : Entries.Compiled t.snippets) (hd : d.Valid) (hh : h.Holds d) :
    let press := dispatcher.dispatch t { key := Key.enter.name } h
    let done : Dispatcher := { dispatcher with enter := { dispatcher.enter with phase := .done } }
    ((d.offsetToPos d.cursor).1 = 0 → press = ({ handled := true }, done, h)) ∧
      ∀ line, (d.offsetToPos d.cursor).1 = line + 1 →
        let stop := d.lineEndOffset line
        let found := Match.ending? (d.text.take stop) t.snippets dispatcher.multiline
        Match.find stop t.snippets dispatcher.multiline h = .ok found h ∧
          (found = none → press = ({ handled := true }, done, h.after d [.setCursor d.cursor] [])) ∧
          ∀ m, found = some m →
            let data := m.snippet.expansion.text
            ∃ start cursor first last : Nat,
              m.start = start ∧ start + m.snippet.trigger.length = stop ∧
              (cursor : Int) = start + data.length - m.snippet.expansion.cursorBack ∧
              (first : Int) = stop + data.length - m.snippet.trigger.length ∧
              (last : Int) = d.cursor + data.length - m.snippet.trigger.length ∧
              first ≤ last ∧ last ≤ (d.text.take start ++ data ++ d.text.drop stop).length ∧
              let final : Document :=
                { d with text := d.text.take start ++ data ++ d.text.drop d.cursor, cursor }
              press = ({ handled := true, snippet := some m.snippet }, done,
                h.after (if dispatcher.enter.keepsWhitespace then final.typed ['\n'] else final)
                  ([.replaceRange start stop data, .setCursor cursor, .replaceRange first last [],
                      .setCursor cursor] ++
                    if dispatcher.enter.keepsWhitespace then
                      [.replaceRange cursor cursor ['\n'], .setCursor (cursor + 1)]
                    else [])
                  [.expanded m.snippet.trigger start]) := by
  intro press done
  refine ⟨fun hfirst => ?_, fun line hline => ?_⟩
  · rw [← hh.after_nil]
    exact dispatch_of_leaves (k := .enter) henter hh (Channel.sees_enterEdit_first hfirst).leaves
  · intro stop found
    have hstop : stop < d.cursor := hd.lineEndOffset_above hline
    have htext : stop ≤ d.text.length := Nat.le_trans hstop.le hd
    have hfind := Match.sees_find_ending htext t.snippets dispatcher.multiline
    refine ⟨hfind h hh, fun hnone => ?_, fun m hm => ?_⟩
    · change Match.ending? (d.text.take stop) t.snippets dispatcher.multiline = none at hnone
      rw [hnone] at hfind
      exact dispatch_of_leaves (k := .enter) henter hh
        (Channel.leaves_enterEdit_none hd hline hfind)
    · intro data
      have hplaced : m.snippet.expansion.Placed := hc.placed (Match.ending?_eq_some hm).1
      obtain ⟨start, cursor, hbegin, hstart, hrest⟩ := Match.exists_places htext hm hplaced
      have hlength : (d.text.take start ++ data ++ d.text.drop stop).length =
          start + data.length + (d.text.length - stop) := by
        rw [List.length_append, Document.length_take_append (by omega), List.length_drop]
      have hcursor : d.cursor ≤ d.text.length := hd
      refine ⟨start, cursor, start + data.length, start + data.length + (d.cursor - stop), hbegin,
        hstart, hrest, by omega, by omega, by omega, by omega, ?_⟩
      have hedit : (Channel.enterEdit dispatcher.enter.keepsWhitespace t.snippets
            dispatcher.multiline).Leaves d _ _ _ _ :=
        Channel.leaves_enterEdit_some hd hline rfl hstop hm hplaced hbegin hstart hrest rfl rfl
      exact dispatch_of_leaves (k := .enter) henter hh hedit

/-- A trigger on two lines with a character before it, a shorter expansion with its cursor inside,
and characters on both sides of the cursor behind the line break. -/
theorem dispatch_enter_spanning :
    let dispatcher : Dispatcher := { enter := { mode := .enabledWithWhitespace } }
    let t : Table := { snippets := [("x\nlong".toList, Escape.compile "b%\\ec".toList)] }
    let d : Document := { text := "ax\nlong\nyz".toList, cursor := 9 }
    dispatcher.enter.mode ≠ .disabled ∧ Entries.Compiled t.snippets ∧ d.Valid ∧
      Host.Holds { document := d } d ∧ (d.offsetToPos d.cursor).1 = 2 ∧
      d.lineEndOffset (1 : Nat) = 7 ∧
      (dispatcher.dispatch t { key := Key.enter.name } { document := d }).2.2 =
        { document := { text := "ab\ncz".toList, cursor := 3 }
          calls := [.replaceRange 1 7 "bc".toList, .setCursor 2, .replaceRange 3 5 [], .setCursor 2,
            .replaceRange 2 2 ['\n'], .setCursor 3]
          log := [.expanded "x\nlong".toList 1] } := by
  intro dispatcher t d
  have henter : dispatcher.enter.mode ≠ .disabled := by decide
  have hc : Entries.Compiled t.snippets := by
    intro e he
    exact ⟨_, by rw [List.mem_singleton.mp he]⟩
  have hd : d.Valid := (by decide : 9 ≤ 10)
  have hh : Host.Holds { document := d } d := ⟨rfl, rfl⟩
  have hline : (d.offsetToPos d.cursor).1 = 2 := by decide
  have hend : d.lineEndOffset (1 : Nat) = 7 := by decide
  obtain ⟨-, -, hsome⟩ := (dispatch_enter henter hc hd hh).2 1 hline
  obtain ⟨start, cursor, first, last, hbegin, -, hcursor, hfirst, hlast, -, -, hpress⟩ :=
    hsome ⟨1, "x\nlong".toList, Escape.compile "b%\\ec".toList⟩ (by decide)
  have hlength : (Escape.compile "b%\\ec".toList).text.length = 2 := by decide
  have hback : (Escape.compile "b%\\ec".toList).cursorBack = 1 := by decide
  have htrigger : ("x\nlong".toList).length = 6 := rfl
  simp only [hlength, hback, htrigger, hend] at hbegin hcursor hfirst hlast
  have hcursor' : d.cursor = 9 := rfl
  obtain rfl : start = 1 := by omega
  obtain rfl : cursor = 2 := by omega
  obtain rfl : first = 3 := by omega
  obtain rfl : last = 5 := by omega
  refine ⟨henter, hc, hd, hh, hline, hend, ?_⟩
  rw [hpress]
  rfl

end Dispatcher

end Shorthand
