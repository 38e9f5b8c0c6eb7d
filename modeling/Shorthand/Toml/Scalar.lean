import Shorthand.Json.Token
import Shorthand.Value.Basic
import Shorthand.Text.Newlines

set_option autoImplicit false
set_option relaxedAutoImplicit false

/-!
# Scalars of configuration files

The keys, strings, numbers and moments of a TOML 1.0 document. Each reader takes the text from where
the scalar starts and gives it with the text after it, or nothing when there is no such scalar.

## Main definitions

* `Shorthand.Toml.key` — a dotted key.
* `Shorthand.Toml.basicString`, `Shorthand.Toml.multilineString`, `Shorthand.Toml.literalString` —
  the strings.
* `Shorthand.Toml.number` — integers of four radices, and floats.
* `Shorthand.Toml.moment?` — dates and date-times; `Shorthand.Toml.time?` — times of day.
-/

namespace Shorthand.Toml

/-- A dotted key: its parts from the outermost table inwards. -/
abbrev Key := List Text

/-! ## Characters -/

/-- Control characters but the tab; they stand nowhere unescaped. -/
def isControl (c : Char) : Bool := (c.toNat < 0x20 && c != '\t') || c.toNat == 0x7F

/-- Spaces and tabs. -/
def isSpace (c : Char) : Bool := c == ' ' || c == '\t'

/-- Spaces, tabs and line feeds. -/
def isSpaceOrBreak (c : Char) : Bool := isSpace c || c == '\n'

/-- The characters of a key without quotes. -/
def isBareKeyChar (c : Char) : Bool := c.isAlphanum || c == '-' || c == '_'

/-- The text after leading spaces and tabs. -/
def skipSpaces (s : Text) : Text := s.dropWhile isSpace

/-- The text after a comment, if one starts here: up to the end of the line. -/
def skipComment (s : Text) : Option Text :=
  match s with
  | '#' :: rest =>
    if (rest.takeWhile (· != '\n')).any isControl then none else some (rest.dropWhile (· != '\n'))
  | _ => some s

/-! ## Strings -/

/-- The character of a numeric escape, which is a Unicode scalar value. -/
def scalarValue? (digits : Text) : Option Char :=
  (Json.hexValue? digits).bind fun n => if n.isValidChar then some (Char.ofNat n) else none

/-- What a character stands for after a backslash. -/
def escaped? : Char → Option Char
  | 'b' => some '\x08'
  | 't' => some '\t'
  | 'n' => some '\n'
  | 'f' => some '\x0c'
  | 'r' => some '\r'
  | '"' => some '"'
  | '\\' => some '\\'
  | _ => none

/-- The string up to its closing double quote, on one line. -/
def basicString : Text → Option (Text × Text)
  | [] => none
  | '"' :: rest => some ([], rest)
  | '\\' :: 'u' :: a :: b :: c :: d :: rest =>
    (scalarValue? [a, b, c, d]).bind fun x => (basicString rest).map fun (s, r) => (x :: s, r)
  | '\\' :: 'U' :: a :: b :: c :: d :: e :: f :: g :: h :: rest =>
    (scalarValue? [a, b, c, d, e, f, g, h]).bind fun x =>
      (basicString rest).map fun (s, r) => (x :: s, r)
  | '\\' :: c :: rest =>
    (escaped? c).bind fun x => (basicString rest).map fun (s, r) => (x :: s, r)
  | c :: rest =>
    if isControl c then none else (basicString rest).map fun (s, r) => (c :: s, r)

/-- What a reader of a multi-line string does with white space: keep it; look for the line break
that a backslash announced; or drop it after that line break. -/
inductive Folding where
  | keep
  | awaitBreak
  | drop
  deriving DecidableEq

/-- The string up to its closing three double quotes. A backslash at the end of a line takes the
line break and all white space after it away. -/
def multilineString (folding : Folding) : Text → Option (Text × Text)
  | [] => none
  | '"' :: '"' :: '"' :: rest => if folding = .awaitBreak then none else some ([], rest)
  | '\\' :: 'u' :: a :: b :: c :: d :: rest =>
    if folding = .awaitBreak then none else
    (scalarValue? [a, b, c, d]).bind fun x =>
      (multilineString .keep rest).map fun (s, r) => (x :: s, r)
  | '\\' :: 'U' :: a :: b :: c :: d :: e :: f :: g :: h :: rest =>
    if folding = .awaitBreak then none else
    (scalarValue? [a, b, c, d, e, f, g, h]).bind fun x =>
      (multilineString .keep rest).map fun (s, r) => (x :: s, r)
  | '\\' :: c :: rest =>
    if folding = .awaitBreak then none
    else if c = '\n' then multilineString .drop rest
    else if isSpace c then multilineString .awaitBreak rest
    else (escaped? c).bind fun x => (multilineString .keep rest).map fun (s, r) => (x :: s, r)
  | c :: rest =>
    match folding with
    | .awaitBreak =>
      if c = '\n' then multilineString .drop rest
      else if isSpace c then multilineString .awaitBreak rest
      else none
    | .drop =>
      if isSpaceOrBreak c then multilineString .drop rest
      else if isControl c then none
      else (multilineString .keep rest).map fun (s, r) => (c :: s, r)
    | .keep =>
      if isControl c && c != '\n' then none
      else (multilineString .keep rest).map fun (s, r) => (c :: s, r)

/-- The string up to its closing single quote, on one line. -/
def literalString (s : Text) : Option (Text × Text) :=
  match Text.cut ['\''] s with
  | some (body, rest) => if body.any isControl then none else some (body, rest)
  | none => none

/-- The string up to its closing three single quotes. -/
def multilineLiteral (s : Text) : Option (Text × Text) :=
  match Text.cut ['\'', '\'', '\''] s with
  | some (body, rest) =>
    if body.any fun c => isControl c && c != '\n' then none else some (body, rest)
  | none => none

/-- Up to two more quotes directly after three closing ones belong to the string. -/
def withExtraQuotes (mark : Char) (p : Text × Text) : Text × Text :=
  match p with
  | (s, c :: d :: rest) =>
    if c = mark then if d = mark then (s ++ [mark, mark], rest) else (s ++ [mark], d :: rest)
    else p
  | (s, [c]) => if c = mark then (s ++ [mark], []) else p
  | p => p

/-- A line feed directly after the opening quotes of a multi-line string does not count. -/
def skipFirstBreak : Text → Text
  | '\n' :: rest => rest
  | s => s

/-- The string at the start of a text. -/
def string? : Text → Option (Text × Text)
  | '"' :: '"' :: '"' :: rest =>
    (multilineString .keep (skipFirstBreak rest)).map (withExtraQuotes '"')
  | '"' :: rest => basicString rest
  | '\'' :: '\'' :: '\'' :: rest =>
    (multilineLiteral (skipFirstBreak rest)).map (withExtraQuotes '\'')
  | '\'' :: rest => literalString rest
  | _ => none

/-! ## Keys -/

/-- One part of a key: bare, or a string on one line. -/
def keyPart : Text → Option (Text × Text)
  | '"' :: rest => basicString rest
  | '\'' :: rest => literalString rest
  | s => match s.span isBareKeyChar with
    | ([], _) => none
    | p => some p

/-- The parts of a key, with spaces around its points. -/
def keyFrom : Nat → Text → Option (Key × Text)
  | 0, _ => none
  | fuel + 1, s =>
    (keyPart s).bind fun (part, rest) =>
      match skipSpaces rest with
      | '.' :: rest => (keyFrom fuel (skipSpaces rest)).map fun (parts, r) => (part :: parts, r)
      | rest => some ([part], rest)

/-- The key at the start of a text, and the text after it and the spaces that follow. Every part
takes a character. -/
def key (s : Text) : Option (Key × Text) := keyFrom (s.length + 1) s

/-! ## Numbers -/

/-- The digits of a group after its first: single underscores may stand between digits. -/
def moreDigits (isDigit : Char → Bool) : Text → Text × Text
  | '_' :: c :: rest =>
    if isDigit c then
      let (ds, r) := moreDigits isDigit rest
      (c :: ds, r)
    else ([], '_' :: c :: rest)
  | c :: rest =>
    if isDigit c then
      let (ds, r) := moreDigits isDigit rest
      (c :: ds, r)
    else ([], c :: rest)
  | [] => ([], [])

/-- A group of digits, without its underscores. -/
def digitGroup (isDigit : Char → Bool) (s : Text) : Option (Text × Text) :=
  match s with
  | c :: rest =>
    if isDigit c then
      let (ds, r) := moreDigits isDigit rest
      some (c :: ds, r)
    else none
  | [] => none

/-- The value of digits to a base. -/
def valueOf (base : Nat) (digits : Text) : Nat :=
  digits.foldl (fun n c => base * n + (Json.hexDigit? c).getD 0) 0

/-- The digits of the base that a letter after a zero announces. -/
def baseOf? : Char → Option (Nat × (Char → Bool))
  | 'x' => some (16, fun c => (Json.hexDigit? c).isSome)
  | 'o' => some (8, fun c => '0' ≤ c && c ≤ '7')
  | 'b' => some (2, fun c => c == '0' || c == '1')
  | _ => none

/-- An integer with a base prefix. -/
def prefixedInteger : Text → Option (Int × Text)
  | '0' :: c :: rest =>
    (baseOf? c).bind fun (base, isDigit) =>
      (digitGroup isDigit rest).map fun (ds, r) => ((valueOf base ds : Nat), r)
  | _ => none

/-- The fraction after an integer part, if one follows. -/
def fraction : Text → Option (Text × Text)
  | '.' :: rest => digitGroup Char.isDigit rest
  | _ => none

/-- The exponent after a number, if one follows. -/
def exponent : Text → Option (Int × Text)
  | e :: rest =>
    if e = 'e' ∨ e = 'E' then
      let (negative, rest) := match rest with
        | '-' :: r => (true, r)
        | '+' :: r => (false, r)
        | r => (false, r)
      (digitGroup Char.isDigit rest).map fun (ds, r) =>
        let n : Int := valueOf 10 ds
        (if negative then -n else n, r)
    else none
  | [] => none

/-- A decimal integer or a float: no leading zeros, and digits on both sides of a point. -/
def decimalNumber (s : Text) : Option (Value × Text) :=
  let (negative, body) := match s with
    | '-' :: r => (true, r)
    | '+' :: r => (false, r)
    | r => (false, r)
  let whole := match body with
    | '0' :: r => some (['0'], r)
    | r => digitGroup Char.isDigit r
  whole.bind fun (whole, rest) =>
    let (part, rest) := match fraction rest with
      | some (ds, r) => (some ds, r)
      | none => (none, rest)
    let (power, rest) := match exponent rest with
      | some (n, r) => (some n, r)
      | none => (none, rest)
    if part.isNone && power.isNone then
      if Text.maxDigits < whole.length then none
      else
        let n : Int := valueOf 10 whole
        some (.int (if negative then -n else n), rest)
    else
      let ds := part.getD []
      let x := Binary64.ofDecimal negative (valueOf 10 (whole ++ ds)) (power.getD 0 - ds.length)
      some (.float x, rest)

/-- The words for the numbers that have no digits. -/
def numberWords : List (Text × Binary64) :=
  [("inf".toList, .infinite false), ("+inf".toList, .infinite false),
    ("-inf".toList, .infinite true), ("nan".toList, .nan), ("+nan".toList, .nan),
    ("-nan".toList, .nan)]

/-- The number at the start of a text. -/
def number (s : Text) : Option (Value × Text) :=
  match prefixedInteger s with
  | some (n, rest) => some (.int n, rest)
  | none => match decimalNumber s with
    | some p => some p
    | none => (numberWords.find? fun (word, _) => word.isPrefixOf s).map fun (word, x) =>
        (.float x, s.drop word.length)

/-! ## Moments -/

/-- A number of exactly `count` digits. -/
def fixedDigits (count : Nat) (s : Text) : Option (Nat × Text) :=
  let ds := s.take count
  if ds.length = count ∧ ds.all Char.isDigit then some (Json.digitsValue ds, s.drop count) else none

/-- A character that has to follow. -/
def expect (c : Char) : Text → Option Text
  | d :: rest => if c = d then some rest else none
  | [] => none

/-- Two digits that make at most `most`. -/
def twoDigits (most : Nat) (s : Text) : Option (Nat × Text) :=
  (fixedDigits 2 s).bind fun (n, rest) => if n ≤ most then some (n, rest) else none

/-- A fraction of a second in microseconds; digits after the sixth are dropped. -/
def microseconds : Text → Nat × Text
  | '.' :: rest => match Json.digits rest with
    | ([], _) => (0, '.' :: rest)
    | (ds, r) =>
      let six := ds.take 6
      (Json.digitsValue six * Nat.pow 10 (6 - six.length), r)
  | s => (0, s)

/-- The time of day at the start of a text. -/
def time? (s : Text) : Option (Time × Text) := do
  let (hour, s) ← twoDigits 23 s
  let s ← expect ':' s
  let (minute, s) ← twoDigits 59 s
  let s ← expect ':' s
  let (second, s) ← twoDigits 59 s
  let (micro, s) := microseconds s
  return (⟨hour, minute, second, micro⟩, s)

/-- The offset from universal time at the start of a text, in minutes. -/
def offset? : Text → Option (Int × Text)
  | c :: rest =>
    if c = 'Z' ∨ c = 'z' then some (0, rest)
    else if c = '+' ∨ c = '-' then do
      let (hours, s) ← twoDigits 23 rest
      let s ← expect ':' s
      let (minutes, s) ← twoDigits 59 s
      let n : Int := hours * 60 + minutes
      return (if c = '-' then -n else n, s)
    else none
  | [] => none

/-- The date at the start of a text; its day need not exist in its month. -/
def date? (s : Text) : Option (Date × Text) := do
  let (year, s) ← fixedDigits 4 s
  let s ← expect '-' s
  let (month, s) ← twoDigits 12 s
  let s ← expect '-' s
  let (day, s) ← twoDigits 31 s
  if month = 0 ∨ day = 0 then none else return (⟨year, month, day⟩, s)

/-- The date or date-time at the start of a text, if its digits are in place; no moment when that
day does not exist. -/
def moment? (s : Text) : Option (Option (Moment × Text)) :=
  (date? s).map fun (d, rest) =>
    if !d.isValid then none
    else
      let time := match rest with
        | c :: after => if c = 'T' ∨ c = 't' ∨ c = ' ' then time? after else none
        | [] => none
      match time with
      | none => some (.date d, rest)
      | some (t, rest) => match offset? rest with
        | some (n, rest) => some (.dateTime d t (some n), rest)
        | none => some (.dateTime d t none, rest)

end Shorthand.Toml
