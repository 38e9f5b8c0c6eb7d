import Shorthand.Match
import Shorthand.Trigger.Mode

set_option autoImplicit false
set_option relaxedAutoImplicit false

/-!
# Channels

Three keys expand triggers by themselves, each through a channel of its own. The space is typed
after its channel has run. Tab and Enter arrive when the host has already indented or broken the
line, so their channels make up for that around the expansion.

## Main definitions

* `Shorthand.Key` — the keys with a channel.
* `Shorthand.Channel` — the mode of a key, and the phase that its channel is in.
* `Shorthand.Channel.handle` — a channel runs: it ends in its last phase whatever happens.

## Main results

* `Shorthand.Channel.handle_channel` — a channel that has run is done.
-/

namespace Shorthand

/-- The keys with a channel. -/
inductive Key where
  | space
  | tab
  | enter
  deriving DecidableEq, Repr

namespace Key

/-- The name of a key. -/
def name : Key → Text
  | .space => "space".toList
  | .tab => "tab".toList
  | .enter => "enter".toList

/-- All keys with a channel. -/
def all : List Key := [.space, .tab, .enter]

/-- The key of a name. -/
def ofName? (name : Text) : Option Key := all.find? fun k => k.name == name

/-- **The name of a key gives that key.** -/
theorem ofName?_name (k : Key) : ofName? k.name = some k := by
  cases k <;> decide

end Key

/-- Where a channel is in its work. -/
inductive Phase where
  /-- It has not run, or is looking for a trigger. -/
  | awaiting
  /-- It is making up for what the host did. -/
  | compensating
  /-- It has run. -/
  | done
  deriving DecidableEq, Repr

/-- The name of a phase. -/
def Phase.name : Phase → Text
  | .awaiting => "AWAITING".toList
  | .compensating => "COMPENSATING".toList
  | .done => "DONE".toList

/-- The channel of a key. -/
structure Channel where
  mode : Mode := .disabled
  phase : Phase := .awaiting
  deriving DecidableEq, Repr

/-- What a channel works on: the host, and its own phase. -/
structure Desk where
  phase : Phase
  host : Host

/-- The work of a channel. -/
abbrev Work := EStateM Failure Desk

namespace Channel

/-- A channel runs unless its key is disabled. -/
def isEnabled (c : Channel) : Bool := c.mode != .disabled

/-- The white space of the key stays after an expansion. -/
def keepsWhitespace (c : Channel) : Bool := c.mode == .enabledWithWhitespace

/-! ## The work of a channel -/

/-- An edit of the host. -/
def edit {α : Type} (e : Edit α) : Work α := fun d =>
  match e d.host with
  | .ok a h => .ok a { d with host := h }
  | .error f h => .error f { d with host := h }

/-- The channel goes into a phase. -/
def enterPhase (p : Phase) : Work Unit := fun d => .ok () { d with phase := p }

/-- The space: the trigger before the cursor is expanded. -/
def runSpace (snippets : Entries Expansion) (multiline : Bool) : Work (Option Snippet) :=
  edit do Match.tryTrigger (← Host.getCursor) snippets multiline

/-- Tab: the indentation of the host is taken back and the trigger before the cursor expanded. The
indentation comes again when there was no trigger, and when white space stays and the snippet has no
line break at all. -/
def runTab (whitespace : Bool) (snippets : Entries Expansion) (multiline : Bool) :
    Work (Option Snippet) := do
  enterPhase .compensating
  edit do
    Host.unindent
    let found ← Match.tryTrigger (← Host.getCursor) snippets multiline
    match found with
    | none => Host.indent
    | some snippet => if whitespace && snippet.shape == Shape.oneLine then Host.indent
    return found

/-- What the channel of Enter does after an expansion at `offset` of the line above: what the host
inserted goes, from the end of the expansion to where its cursor was, and the cursor stays. With
white space one line break is put in at the cursor. -/
def removeBreak (offset hostCursor : Int) (whitespace : Bool) (snippet : Snippet) : Edit Unit := do
  let delta : Int := snippet.expansion.text.length - snippet.trigger.length
  let cursor ← Host.getCursor
  Host.replaceRange (offset + delta) (hostCursor + delta) []
  Host.setCursor cursor
  if whitespace then
    Host.replaceRange cursor cursor ['\n']
    Host.setCursor (cursor + 1)

/-- Enter: the trigger at the end of the line above the cursor is expanded. -/
def runEnter (whitespace : Bool) (snippets : Entries Expansion) (multiline : Bool) :
    Work (Option Snippet) := do
  let hostCursor ← edit Host.getCursor
  let (line, _) ← edit (Host.offsetToPos hostCursor)
  if line = 0 then return none
  let offset ← edit (Host.lineEndOffset (line - 1 : Nat))
  match ← edit (Match.tryTrigger offset snippets multiline) with
  | none =>
    edit (Host.setCursor hostCursor)
    return none
  | some snippet =>
    enterPhase .compensating
    edit (removeBreak offset hostCursor whitespace snippet)
    return some snippet

/-- The work of the channel of a key. -/
def run (c : Channel) (k : Key) (snippets : Entries Expansion) (multiline : Bool) :
    Work (Option Snippet) :=
  match k with
  | .space => runSpace snippets multiline
  | .tab => runTab c.keepsWhitespace snippets multiline
  | .enter => runEnter c.keepsWhitespace snippets multiline

/-- The channel of a key runs on a host. It ends in its last phase, and with what was done to the
host up to a failure. -/
def handle (c : Channel) (k : Key) (snippets : Entries Expansion) (multiline : Bool) (h : Host) :
    Except Failure (Option Snippet) × Channel × Host :=
  match c.run k snippets multiline { phase := .awaiting, host := h } with
  | .ok found d => (.ok found, { c with phase := .done }, d.host)
  | .error f d => (.error f, { c with phase := .done }, d.host)

/-- **A channel that has run is done,** in the mode it had. -/
theorem handle_channel (c : Channel) (k : Key) (snippets : Entries Expansion) (multiline : Bool)
    (h : Host) : (c.handle k snippets multiline h).2.1 = { c with phase := .done } := by
  unfold handle
  split <;> rfl

end Channel

end Shorthand
