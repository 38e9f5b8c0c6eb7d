import Shorthand.Entries
import Shorthand.Host
import Shorthand.Snippet

set_option autoImplicit false
set_option relaxedAutoImplicit false

/-!
# Matching and expanding

A trigger matches only where it ends, exactly at the cursor: the characters before the cursor are
compared with it, as many as it has. The first entry of the table that matches wins.

## Main definitions

* `Shorthand.Match.find` — the first entry whose trigger ends at an offset, and where it starts.
* `Shorthand.Match.expand` — the trigger replaced by its expansion.
* `Shorthand.Match.tryTrigger` — both.
-/

namespace Shorthand

/-- A trigger found in a document. -/
structure Match where
  /-- The offset where the trigger starts. -/
  start : Int
  snippet : Snippet
  deriving DecidableEq, Repr

namespace Match

/-- The least offset that a trigger may start at: with `multiline` the start of the text, else
that of the line of the offset. -/
def floor (offset : Int) (multiline : Bool) : Edit Int :=
  if multiline then return 0
  else do
    let (line, _) ← Host.offsetToPos offset
    Host.posToOffset line 0

/-- The first of the entries whose trigger ends at an offset and does not start before `floor`. -/
def findFrom (offset floor : Int) : Entries Expansion → Edit (Option Match)
  | [] => return none
  | (trigger, expansion) :: rest => do
    let start := offset - trigger.length
    if start < floor then findFrom offset floor rest
    else if (← Host.getRange start offset) = trigger then return some ⟨start, trigger, expansion⟩
    else findFrom offset floor rest

/-- The first entry whose trigger ends at an offset. -/
def find (offset : Int) (snippets : Entries Expansion) (multiline : Bool) :
    Edit (Option Match) := do
  findFrom offset (← floor offset multiline) snippets

/-- The trigger that ends at an offset is replaced, and the cursor goes to its place in the
expansion. -/
def expand (offset : Int) (m : Match) : Edit Unit := do
  let e := m.snippet.expansion
  Host.replaceRange m.start offset e.text
  Host.setCursor (m.start + e.text.length - e.cursorBack)
  Host.note (.expanded m.snippet.trigger m.start)

/-- The trigger that ends at an offset, if there is one, is expanded. -/
def tryTrigger (offset : Int) (snippets : Entries Expansion) (multiline : Bool) :
    Edit (Option Snippet) := do
  match ← find offset snippets multiline with
  | none => return none
  | some m =>
    expand offset m
    return some m.snippet

end Match

end Shorthand
