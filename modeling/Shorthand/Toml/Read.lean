import Shorthand.Toml.Tree

set_option autoImplicit false
set_option relaxedAutoImplicit false

/-!
# Reading configuration files

A TOML 1.0 document is a sequence of lines: headers, keys with values, comments and empty lines. A
document that breaks a rule has no value at all.

## Main definitions

* `Shorthand.Toml.value` — a value of any kind.
* `Shorthand.Toml.statement` — one line.
* `Shorthand.Toml.read` — the table of a document.
-/

namespace Shorthand.Toml

/-- How much arrays and inline tables may weigh that lie in one another. -/
def maxWeight : Nat := 985

/-- The weight of an array. -/
def arrayWeight : Nat := 2

/-- The weight of an inline table. -/
def tableWeight : Nat := 3

/-! ## Values -/

/-- White space, line breaks and comments, as they may stand between the items of an array. -/
def skipFiller : Nat → Text → Option Text
  | 0, _ => none
  | fuel + 1, s =>
    match s.dropWhile isSpaceOrBreak with
    | '#' :: rest => (skipComment ('#' :: rest)).bind (skipFiller fuel)
    | rest => some rest

/-- White space, line breaks and comments. -/
def filler (s : Text) : Option Text := skipFiller (s.length + 1) s

/-- A value that is neither an array nor an inline table. -/
def scalar (s : Text) : Option (Value × Text) :=
  match s with
  | '"' :: _ => (string? s).map fun (t, r) => (.text t, r)
  | '\'' :: _ => (string? s).map fun (t, r) => (.text t, r)
  | _ =>
    if "true".toList.isPrefixOf s then some (.bool true, s.drop 4)
    else if "false".toList.isPrefixOf s then some (.bool false, s.drop 5)
    else match moment? s with
      | some m => m.map fun (m, r) => (.moment m, r)
      | none => match time? s with
        | some (t, r) => some (.moment (.time t), r)
        | none => number s

mutual

/-- The value at the start of a text, and the text after it. It may weigh no more than `weight`. -/
def value (weight : Nat) : Nat → Text → Option (Value × Text)
  | 0, _ => none
  | fuel + 1, s =>
    match s with
    | '[' :: rest =>
      if weight < arrayWeight then none else
      (filler rest).bind fun rest =>
        match rest with
        | ']' :: rest => some (.array [], rest)
        | rest => (items (weight - arrayWeight) fuel rest).map fun (vs, r) => (.array vs, r)
    | '\x7b' :: rest =>
      if weight < tableWeight then none else
      match skipSpaces rest with
      | '\x7d' :: rest => some (.table [], rest)
      | rest => (members (weight - tableWeight) fuel [] [] rest).map fun (es, r) => (.table es, r)
    | s => scalar s

/-- The items of an array up to its closing bracket; the last may have a comma after it. -/
def items (weight : Nat) : Nat → Text → Option (List Value × Text)
  | 0, _ => none
  | fuel + 1, s => do
    let (v, rest) ← value weight fuel s
    match ← filler rest with
    | ']' :: rest => return ([v], rest)
    | ',' :: rest =>
      match ← filler rest with
      | ']' :: rest => return ([v], rest)
      | rest =>
        let (vs, rest) ← items weight fuel rest
        return (v :: vs, rest)
    | _ => none

/-- The members of an inline table up to its closing brace. Values that are arrays or tables are
sealed once a comma follows. -/
def members (weight : Nat) : Nat → List Key → Entries Value → Text → Option (Entries Value × Text)
  | 0, _, _, _ => none
  | fuel + 1, sealedKeys, es, s => do
    let (k, rest) ← key s
    let rest ← expect '=' rest
    let (v, rest) ← value weight fuel (skipSpaces rest)
    if sealedKeys.any fun sealedKey => sealedKey.isPrefixOf k then none
    else
      let name ← k.getLast?
      let es ← within false (Tree.define name v) k.dropLast es
      match skipSpaces rest with
      | '\x7d' :: rest => return (es, rest)
      | ',' :: rest =>
        members weight fuel (if Tree.isInline v then k :: sealedKeys else sealedKeys) es
          (skipSpaces rest)
      | _ => none

end

/-- The value at the start of a text. Each call of the reader follows a character of its own. -/
def value? (s : Text) : Option (Value × Text) := value maxWeight (2 * s.length + 2) s

/-! ## Lines -/

/-- The header at the start of a text. -/
def headerLine (t : Tree) (s : Text) : Option (Tree × Text) :=
  match s with
  | '[' :: '[' :: rest => do
    let (k, rest) ← key (skipSpaces rest)
    let t ← t.closePending.openItem k
    let rest ← expect ']' rest
    let rest ← expect ']' rest
    return (t, rest)
  | '[' :: rest => do
    let (k, rest) ← key (skipSpaces rest)
    let t ← t.closePending.openTable k
    let rest ← expect ']' rest
    return (t, rest)
  | _ => none

/-- The key and value at the start of a text. -/
def pairLine (t : Tree) (s : Text) : Option (Tree × Text) := do
  let (k, rest) ← key s
  let rest ← expect '=' rest
  let (v, rest) ← value? (skipSpaces rest)
  let t ← t.assign k v
  return (t, rest)

/-- What stands on a line before its comment. -/
def statement (t : Tree) (s : Text) : Option (Tree × Text) :=
  match s with
  | [] => some (t, [])
  | c :: _ =>
    if c = '\n' ∨ c = '#' then some (t, s)
    else if c = '[' then (headerLine t s).map fun (t, r) => (t, skipSpaces r)
    else (pairLine t s).map fun (t, r) => (t, skipSpaces r)

/-- The lines of a document, one after the other. -/
def readLines : Nat → Tree → Text → Option Tree
  | 0, _, _ => none
  | fuel + 1, t, s => do
    let (t, rest) ← statement t (skipSpaces s)
    match ← skipComment rest with
    | [] => return t
    | '\n' :: rest => readLines fuel t rest
    | _ => none

/-- The table of a document. Every line takes a character, but the last. -/
def read (s : Text) : Option (Entries Value) :=
  let body := Text.joinReturnPairs s
  (readLines (body.length + 1) {} body).map (·.root)

end Shorthand.Toml
