import Shorthand.Json.Token
import Shorthand.Value.Basic

set_option autoImplicit false
set_option relaxedAutoImplicit false

/-!
# JSON texts

A reader of JSON that keeps the order of the members and the difference between integers and
fractions; a member that is named again keeps its place and takes the new value. Its strings may
hold lone surrogates, so what it gives is a tree of its own and becomes a value only where texts
are asked for.

## Main definitions

* `Shorthand.Json.Tree` — what a JSON text holds.
* `Shorthand.Json.Tree.read` — the tree of a text.
* `Shorthand.Json.Tree.toValue` — the value of a tree.
-/

namespace Shorthand.Json

/-- What a JSON text holds. -/
inductive Tree where
  | null
  | bool (b : Bool)
  | int (n : Int)
  | float (x : Binary64)
  | string (s : Points)
  | array (items : List Tree)
  | object (members : List (Points × Tree))
  deriving Inhabited

namespace Tree

/-! ## Reading -/

/-- What follows leading white space. -/
def skipSpace (s : Points) : Points :=
  s.dropWhile fun p => p == .char ' ' || p == .char '\n' || p == .char '\t' || p == .char '\r'

/-- The words that are trees. -/
def words : List (Text × Tree) :=
  [("null".toList, .null), ("true".toList, .bool true), ("false".toList, .bool false),
    ("NaN".toList, .float .nan), ("Infinity".toList, .float (.infinite false)),
    ("-Infinity".toList, .float (.infinite true))]

/-- The word or number at the start of points, and what follows it. -/
def wordOrNumber (s : Points) : Except Fault (Tree × Points) :=
  match words.find? fun (word, _) => (Points.ofText word).isPrefixOf s with
  | some (word, t) => .ok (t, s.drop word.length)
  | none =>
    let written := numberChars s
    (number written).map fun (n, rest) =>
      (match n with
        | .int n => .int n
        | .float x => .float x, s.drop (written.length - rest.length))

mutual

/-- The tree at the start of points, and what follows it. Arrays and objects may nest `depth`
deep. -/
def value (depth : Nat) : Nat → Points → Except Fault (Tree × Points)
  | 0, _ => .error .excessive
  | fuel + 1, s =>
    match s with
    | .char '"' :: rest => match string? rest with
      | some (t, rest) => .ok (.string t, rest)
      | none => .error .malformed
    | .char '[' :: rest =>
      if depth = 0 then .error .excessive else
      match skipSpace rest with
      | .char ']' :: rest => .ok (.array [], rest)
      | rest => (items (depth - 1) fuel rest).map fun (ts, r) => (.array ts, r)
    | .char '\x7b' :: rest =>
      if depth = 0 then .error .excessive else
      match skipSpace rest with
      | .char '\x7d' :: rest => .ok (.object [], rest)
      | rest => (members (depth - 1) fuel [] rest).map fun (ms, r) => (.object ms, r)
    | s => wordOrNumber s

/-- The items of an array up to its closing bracket. -/
def items (depth : Nat) : Nat → Points → Except Fault (List Tree × Points)
  | 0, _ => .error .excessive
  | fuel + 1, s => do
    let (t, rest) ← value depth fuel s
    match skipSpace rest with
    | .char ',' :: rest => do
      let (ts, rest) ← items depth fuel (skipSpace rest)
      return (t :: ts, rest)
    | .char ']' :: rest => return ([t], rest)
    | _ => .error .malformed

/-- The members of an object up to its closing brace, after those read before. -/
def members (depth : Nat) : Nat → List (Points × Tree) → Points →
    Except Fault (List (Points × Tree) × Points)
  | 0, _, _ => .error .excessive
  | fuel + 1, before, s =>
    match s with
    | .char '"' :: rest => match string? rest with
      | some (key, rest) => match skipSpace rest with
        | .char ':' :: rest => do
          let (t, rest) ← value depth fuel (skipSpace rest)
          let now := Entries.insert before key t
          match skipSpace rest with
          | .char ',' :: rest => members depth fuel now (skipSpace rest)
          | .char '\x7d' :: rest => return (now, rest)
          | _ => .error .malformed
        | _ => .error .malformed
      | none => .error .malformed
    | _ => .error .malformed

end

/-- The tree of a JSON text in which arrays and objects nest no deeper than `depth`. Each call of
the reader follows a character of its own. -/
def read (depth : Nat) (s : Points) : Except Fault Tree := do
  let (t, rest) ← value depth (2 * s.length + 2) (skipSpace s)
  if (skipSpace rest).isEmpty then return t else throw .malformed

/-! ## Members -/

/-- The member of a name, if the tree is an object that has one. -/
def member? (t : Tree) (name : Text) : Option Tree :=
  match t with
  | .object members => Entries.find? members (Points.ofText name)
  | _ => none

/-! ## Trees as values -/

/-- The text of points: a lone surrogate becomes a replacement character. -/
def textOf (s : Points) : Text := s.map fun p => p.char?.getD '\ufffd'

mutual

/-- The value of a tree. -/
def toValue : Tree → Value
  | .null => .null
  | .bool b => .bool b
  | .int n => .int n
  | .float x => .float x
  | .string s => .text (textOf s)
  | .array items => .array (itemValues items)
  | .object members => .table (memberValues members)

/-- The values of items. -/
def itemValues : List Tree → List Value
  | [] => []
  | t :: rest => toValue t :: itemValues rest

/-- The entries of members. -/
def memberValues : List (Points × Tree) → List (Text × Value)
  | [] => []
  | (key, t) :: rest => (textOf key, toValue t) :: memberValues rest

end

/-! ## What cannot be written -/

mutual

/-- Whether a number that is infinite or not-a-number stands anywhere in a tree. -/
def hasNonFinite : Tree → Bool
  | .float (.finite _ _ _) => false
  | .float _ => true
  | .array items => itemsHaveNonFinite items
  | .object members => membersHaveNonFinite members
  | _ => false

/-- Whether such a number stands in an item. -/
def itemsHaveNonFinite : List Tree → Bool
  | [] => false
  | t :: rest => hasNonFinite t || itemsHaveNonFinite rest

/-- Whether such a number stands in a member. -/
def membersHaveNonFinite : List (Points × Tree) → Bool
  | [] => false
  | (_, t) :: rest => hasNonFinite t || membersHaveNonFinite rest

end

mutual

/-- Whether a surrogate stands alone in a string or a name anywhere in a tree. -/
def hasLone : Tree → Bool
  | .string s => s.hasLone
  | .array items => itemsHaveLone items
  | .object members => membersHaveLone members
  | _ => false

/-- Whether one stands in an item. -/
def itemsHaveLone : List Tree → Bool
  | [] => false
  | t :: rest => hasLone t || itemsHaveLone rest

/-- Whether one stands in a member or its name. -/
def membersHaveLone : List (Points × Tree) → Bool
  | [] => false
  | (key, t) :: rest => key.hasLone || hasLone t || membersHaveLone rest

end

mutual

/-- A tree without the members whose names start with `start`, in it and in all that it holds. -/
def without (start : Points) : Tree → Tree
  | .array items => .array (itemsWithout start items)
  | .object members => .object (membersWithout start members)
  | t => t

/-- The items without such members. -/
def itemsWithout (start : Points) : List Tree → List Tree
  | [] => []
  | t :: rest => without start t :: itemsWithout start rest

/-- The members without such members. -/
def membersWithout (start : Points) : List (Points × Tree) → List (Points × Tree)
  | [] => []
  | (key, t) :: rest =>
    if start.isPrefixOf key then membersWithout start rest
    else (key, without start t) :: membersWithout start rest

end

end Tree

/-- The value of a JSON text. -/
def read (depth : Nat) (s : Text) : Except Fault Value :=
  (Tree.read depth (Points.ofText s)).map Tree.toValue

end Shorthand.Json
