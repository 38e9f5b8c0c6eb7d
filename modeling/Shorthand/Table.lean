import Shorthand.Source

set_option autoImplicit false
set_option relaxedAutoImplicit false

/-!
# The table of snippets

The table in use is a snapshot: a reload puts a new one in its place, and whoever holds an earlier
one keeps it as it was. Each table but the first, which is empty, counts one more than the one
before.

## Main definitions

* `Shorthand.Table` — the snippets, the malformed records, and the count of reloads.
* `Shorthand.Table.get?` — the snippet of a trigger.
* `Shorthand.Table.next` — the table after a reload.
-/

namespace Shorthand

/-- The snippets in use, in the order in which they are tried. -/
structure Table where
  snippets : Entries Expansion := []
  /-- The number of reloads up to this table. -/
  generation : Nat := 0
  diagnostics : List Diagnostic := []
  deriving DecidableEq, Repr

namespace Table

/-- The snippet of a trigger. -/
def get? (t : Table) (trigger : Text) : Option Snippet :=
  (Entries.find? t.snippets trigger).map fun expansion => ⟨trigger, expansion⟩

/-- The table after a reload. -/
def next (t : Table) (r : Source.Reading) : Table :=
  { snippets := r.snippets, generation := t.generation + 1, diagnostics := r.diagnostics }

/-- What a reload reports. -/
def loadedEntry (t : Table) : Log.Entry := .loaded t.snippets.length t.generation

end Table

end Shorthand
