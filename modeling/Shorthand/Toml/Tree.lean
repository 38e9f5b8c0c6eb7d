import Shorthand.Toml.Scalar

set_option autoImplicit false
set_option relaxedAutoImplicit false

/-!
# The tables of a configuration file under construction

A document is built line by line. Which table a line may still open or extend depends on how that
table came about: by a header, by a dotted key, or as an inline value.

## Main definitions

* `Shorthand.Toml.within` — a change of the table at a path, with missing tables made on the way.
* `Shorthand.Toml.Tree` — the tables so far, and the keys that are closed.
* `Shorthand.Toml.Tree.openTable`, `Shorthand.Toml.Tree.openItem`, `Shorthand.Toml.Tree.assign` — a
  table header, an array-of-tables header, and a key with its value.
-/

namespace Shorthand.Toml

/-- The table at a path changed by `f`; missing tables are made, and with `throughArrays` the path
leads on into the last table of an array. There is no result when something else is in the way. -/
def within (throughArrays : Bool) (f : Entries Value → Option (Entries Value)) :
    Key → Entries Value → Option (Entries Value)
  | [], es => f es
  | k :: path, es =>
    match Entries.find? es k with
    | none => (within throughArrays f path []).map fun sub => Entries.insert es k (.table sub)
    | some (.table sub) =>
      (within throughArrays f path sub).map fun sub => Entries.insert es k (.table sub)
    | some (.array items) =>
      match throughArrays, items.getLast? with
      | true, some (.table sub) =>
        (within throughArrays f path sub).map fun sub =>
          Entries.insert es k (.array (items.dropLast ++ [.table sub]))
      | _, _ => none
    | some _ => none

/-- The tables so far. -/
structure Tree where
  /-- The outermost table. -/
  root : Entries Value := []
  /-- The table that the last header opened. -/
  header : Key := []
  /-- The tables that no header and no dotted key may open again. -/
  declared : List Key := []
  /-- The inline tables and arrays, which nothing may extend. -/
  sealed : List Key := []
  /-- The tables that dotted keys made since the last header; the next one closes them. -/
  pending : List Key := []

namespace Tree

/-- Whether a key lies in an inline value. -/
def isSealed (t : Tree) (key : Key) : Bool := t.sealed.any fun k => k.isPrefixOf key

/-- A new header closes what dotted keys made before it. -/
def closePending (t : Tree) : Tree :=
  { t with declared := t.declared ++ t.pending, pending := [] }

/-- A header `[key]` opens a table that was not declared before. -/
def openTable (t : Tree) (key : Key) : Option Tree :=
  if t.declared.contains key || t.isSealed key then none
  else (within true some key t.root).map fun root =>
    { t with root, header := key, declared := key :: t.declared }

/-- One more empty table in the array of tables under a name. -/
def appendItem (name : Text) (es : Entries Value) : Option (Entries Value) :=
  match Entries.find? es name with
  | none => some (Entries.insert es name (.array [.table []]))
  | some (.array items) => some (Entries.insert es name (.array (items ++ [.table []])))
  | some _ => none

/-- A header `[[key]]` appends a table to an array of tables; what was declared in the one before it
does not bind the new one. -/
def openItem (t : Tree) (key : Key) : Option Tree :=
  match key.getLast? with
  | none => none
  | some name =>
    if t.isSealed key then none
    else (within true (appendItem name) key.dropLast t.root).map fun root =>
      { t with
        root, header := key
        declared := key :: t.declared.filter fun k => !key.isPrefixOf k
        sealed := t.sealed.filter fun k => !key.isPrefixOf k }

/-- The prefixes of a dotted key that name tables: all but the empty one and the key itself. -/
def tablePrefixes (key : Key) : List Key :=
  (List.range (key.length - 1)).map fun i => key.take (i + 1)

/-- A new definition in a table. -/
def define (name : Text) (v : Value) (es : Entries Value) : Option (Entries Value) :=
  if Entries.has es name then none else some (Entries.insert es name v)

/-- Arrays and tables that stand as values are sealed. -/
def isInline : Value → Bool
  | .array _ => true
  | .table _ => true
  | _ => false

/-- A line `key = value` under the last header. -/
def assign (t : Tree) (key : Key) (v : Value) : Option Tree :=
  match key.getLast? with
  | none => none
  | some name =>
    let made := (tablePrefixes key).map (t.header ++ ·)
    let parent := t.header ++ key.dropLast
    if made.any t.declared.contains || t.isSealed parent then none
    else (within true (define name v) parent t.root).map fun root =>
      { t with
        root
        pending := t.pending ++ made
        sealed := if isInline v then (t.header ++ key) :: t.sealed else t.sealed }

end Tree

end Shorthand.Toml
