import Shorthand.Toml.Scalar

set_option autoImplicit false
set_option relaxedAutoImplicit false

/-!
# Writing configuration files

A table is written with its plain entries first and its subtables after them, each under its own
header. Arrays take one line for each item; an array of tables gets headers only when one of its
tables would not fit on a line.

## Main definitions

* `Shorthand.Toml.writeString` — a string between double quotes.
* `Shorthand.Toml.writeInline` — a value as it stands after an equals sign.
* `Shorthand.Toml.write` — a document.
-/

namespace Shorthand.Toml

/-- How a character stands in a string: quotes, backslashes and control characters are escaped, a
tab stays. -/
def writeChar (c : Char) : Text :=
  if c = '"' then ['\\', '"']
  else if c = '\\' then ['\\', '\\']
  else if c = '\x08' then ['\\', 'b']
  else if c = '\n' then ['\\', 'n']
  else if c = '\x0c' then ['\\', 'f']
  else if c = '\r' then ['\\', 'r']
  else if isControl c then '\\' :: 'u' :: Text.hex 4 c.toNat
  else [c]

/-- A string between double quotes. -/
def writeString (s : Text) : Text := '"' :: s.flatMap writeChar ++ ['"']

/-- A part of a key, without quotes where it can be. -/
def writeKey (k : Text) : Text :=
  if !k.isEmpty && k.all isBareKeyChar then k else writeString k

/-- The width of a step of indentation. -/
def indentWidth : Nat := 4

/-- The indentation of a level. -/
def indentation (level : Nat) : Text := List.replicate (indentWidth * level) ' '

mutual

/-- A value as it stands after an equals sign, with the items of an array indented one level more
than `level`. There is no null; it is written as an empty string. -/
def writeInline (level : Nat) : Value → Text
  | .null => "\"\"".toList
  | .bool b => if b then "true".toList else "false".toList
  | .int n => Text.ofInt n
  | .float x => x.toText
  | .text s => writeString s
  | .moment m => m.toText ' '
  | .array [] => ['[', ']']
  | .array (v :: rest) =>
    '[' :: '\n' :: writeItems (level + 1) (v :: rest) ++ indentation level ++ [']']
  | .table [] => ['\x7b', '\x7d']
  | .table (e :: rest) => '\x7b' :: ' ' :: writeMembers (e :: rest) ++ [' ', '\x7d']

/-- The items of an array, each on a line with a comma. -/
def writeItems (level : Nat) : List Value → Text
  | [] => []
  | v :: rest => indentation level ++ writeInline level v ++ ',' :: '\n' :: writeItems level rest

/-- The members of an inline table, between commas. -/
def writeMembers : List (Text × Value) → Text
  | [] => []
  | [(k, v)] => writeKey k ++ " = ".toList ++ writeInline 0 v
  | (k, v) :: rest =>
    writeKey k ++ " = ".toList ++ writeInline 0 v ++ ", ".toList ++ writeMembers rest

end

/-- The longest line that an inline table of an array may take. -/
def maxLineLength : Nat := 100

/-- Whether a table fits on a line of an array, with its indentation and its comma. -/
def fitsOnLine (v : Value) : Bool :=
  let written := writeInline 0 v
  indentWidth + written.length + 1 ≤ maxLineLength && !written.contains '\n'

/-- Whether a value is a nonempty array of tables. -/
def isTableArray : Value → Bool
  | .array (v :: rest) => (v :: rest).all fun v => match v with
    | .table _ => true
    | _ => false
  | _ => false

/-- Whether a value stands after an equals sign: not a table, nor an array of tables of which one
does not fit on a line. -/
def isPlain : Value → Bool
  | .table _ => false
  | .array items => !(isTableArray (.array items) && !items.all fitsOnLine)
  | _ => true

/-- The plain entries of a table, one on a line. -/
def writePlain (entries : Entries Value) : Text :=
  (entries.filter fun (_, v) => isPlain v).flatMap fun (k, v) =>
    writeKey k ++ " = ".toList ++ writeInline 0 v ++ ['\n']

/-- The header of a table. -/
def writeHeader (name : Text) (inArray : Bool) : Text :=
  if inArray then "[[".toList ++ name ++ "]]\n".toList else '[' :: name ++ "]\n".toList

/-- The header that a table is written under. A table that holds nothing but subtables needs none,
unless it is an item of an array. -/
def tableHeader (name : Text) (inArray : Bool) (entries : Entries Value) : Text :=
  if inArray ||
      (!name.isEmpty && (!(writePlain entries).isEmpty || entries.all fun (_, v) => isPlain v)) then
    writeHeader name inArray
  else []

/-- The name of a subtable. -/
def subName (name key : Text) : Text :=
  if name.isEmpty then writeKey key else name ++ '.' :: writeKey key

mutual

/-- A table under its dotted name. -/
def writeTable (name : Text) (inArray : Bool) (entries : List (Text × Value)) : Text :=
  let start := tableHeader name inArray entries ++ writePlain entries
  start ++ writeSubtables name (!start.isEmpty) entries

/-- The subtables of a table, with an empty line before each that has something before it. -/
def writeSubtables (name : Text) (after : Bool) : List (Text × Value) → Text
  | [] => []
  | (key, .table entries) :: rest =>
    (if after then ['\n'] else []) ++ writeTable (subName name key) false entries ++
      writeSubtables name true rest
  | (key, .array items) :: rest =>
    if isPlain (.array items) then writeSubtables name after rest
    else writeTableItems (subName name key) after items ++ writeSubtables name true rest
  | (_, _) :: rest => writeSubtables name after rest

/-- The tables of an array, each under its own header. -/
def writeTableItems (name : Text) (after : Bool) : List Value → Text
  | [] => []
  | .table entries :: rest =>
    (if after then ['\n'] else []) ++ writeTable name true entries ++ writeTableItems name true rest
  | _ :: rest => writeTableItems name after rest

end

/-- A document. -/
def write (entries : Entries Value) : Text := writeTable [] false entries

end Shorthand.Toml
