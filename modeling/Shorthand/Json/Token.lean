import Shorthand.Decimal.Binary64
import Shorthand.Text.Integer
import Shorthand.Text.Points

set_option autoImplicit false
set_option relaxedAutoImplicit false

/-!
# The strings and numbers of JSON

Each reader takes what it reads from where the string or number starts, and gives it with what
follows. Besides the grammar of the format the words `NaN`, `Infinity` and `-Infinity` are
numbers.

## Main definitions

* `Shorthand.Json.Fault` — why there is nothing to give.
* `Shorthand.Json.string?` — a string; numeric escapes may leave surrogates alone.
* `Shorthand.Json.number` — an integer, or a number with a fraction or an exponent.
-/

namespace Shorthand.Json

/-- Why a text has no value: it is no JSON text, or it is one beyond the limits of the reader. -/
inductive Fault where
  | malformed
  | excessive
  deriving DecidableEq, Repr

/-! ## Strings -/

/-- The value of a hexadecimal digit. -/
def hexDigit? (c : Char) : Option Nat :=
  if '0' ≤ c ∧ c ≤ '9' then some (c.toNat - '0'.toNat)
  else if 'a' ≤ c ∧ c ≤ 'f' then some (c.toNat - 'a'.toNat + 10)
  else if 'A' ≤ c ∧ c ≤ 'F' then some (c.toNat - 'A'.toNat + 10)
  else none

/-- The value of hexadecimal digits. -/
def hexValue? (digits : Text) : Option Nat :=
  digits.foldl (fun acc c => acc.bind fun n => (hexDigit? c).map (16 * n + ·)) (some 0)

/-- What a character stands for after a backslash. -/
def escaped? : Char → Option Char
  | '"' => some '"'
  | '\\' => some '\\'
  | '/' => some '/'
  | 'b' => some '\x08'
  | 'f' => some '\x0c'
  | 'n' => some '\n'
  | 'r' => some '\r'
  | 't' => some '\t'
  | _ => none

/-- A piece of a string: a point that stands for itself or is named by a letter, or the number of an
escape. -/
inductive Piece where
  | point (p : Point)
  | number (n : Nat)
  deriving DecidableEq, Repr

/-- The pieces of a string up to its closing quote, and what follows it. -/
def pieces : Points → Option (List Piece × Points)
  | [] => none
  | .char '"' :: rest => some ([], rest)
  | .char '\\' :: .char 'u' :: .char a :: .char b :: .char c :: .char d :: rest =>
    (hexValue? [a, b, c, d]).bind fun n => (pieces rest).map fun (ps, r) => (.number n :: ps, r)
  | .char '\\' :: .char c :: rest =>
    (escaped? c).bind fun e => (pieces rest).map fun (ps, r) => (.point (.char e) :: ps, r)
  | .char '\\' :: _ => none
  | p :: rest =>
    if p.char?.any fun c => c.toNat < 0x20 then none
    else (pieces rest).map fun (ps, r) => (.point p :: ps, r)

/-- The point of a numeric escape. -/
def Piece.ofEscape (n : Nat) : Point := (Point.ofNat? n).getD (.lone n)

/-- The points of pieces: escapes for both halves of a pair that follow each other are one
character. -/
def joinPieces : List Piece → Points
  | [] => []
  | .point p :: rest => p :: joinPieces rest
  | .number n :: .number m :: rest =>
    if Point.isHigh n && Point.isLow m then Point.ofPair n m :: joinPieces rest
    else Piece.ofEscape n :: joinPieces (.number m :: rest)
  | .number n :: rest => Piece.ofEscape n :: joinPieces rest

/-- The string after an opening quote, and what follows it. -/
def string? (s : Points) : Option (Points × Points) :=
  (pieces s).map fun (ps, rest) => (joinPieces ps, rest)

/-! ## Numbers -/

/-- The leading ASCII digits of a text, and what follows them. -/
def digits (s : Text) : Text × Text := s.span Char.isDigit

/-- The value of ASCII digits. -/
def digitsValue (s : Text) : Nat := s.foldl (fun n c => 10 * n + (c.toNat - '0'.toNat)) 0

/-- The fraction after an integer part, if one follows: a point and at least one digit. -/
def fraction (s : Text) : Option (Text × Text) :=
  match s with
  | '.' :: rest => match digits rest with
    | ([], _) => none
    | p => some p
  | _ => none

/-- The exponent after a number, if one follows. -/
def exponent (s : Text) : Option (Int × Text) :=
  match s with
  | e :: rest =>
    if e = 'e' ∨ e = 'E' then
      let (negative, rest) := match rest with
        | '-' :: r => (true, r)
        | '+' :: r => (false, r)
        | r => (false, r)
      match digits rest with
      | ([], _) => none
      | (ds, after) =>
        let n : Int := digitsValue ds
        some (if negative then -n else n, after)
    else none
  | [] => none

/-- A number: an integer, or one that may have a fraction. -/
inductive Number where
  | int (n : Int)
  | float (x : Binary64)

/-- The number at the start of a text, and what follows it. -/
def number (s : Text) : Except Fault (Number × Text) :=
  let (negative, body) := match s with
    | '-' :: r => (true, r)
    | r => (false, r)
  let (whole, rest) := match body with
    | '0' :: r => (['0'], r)
    | r => digits r
  if whole.isEmpty then .error .malformed
  else
    let (part, rest) := match fraction rest with
      | some (ds, r) => (some ds, r)
      | none => (none, rest)
    let (power, rest) := match exponent rest with
      | some (n, r) => (some n, r)
      | none => (none, rest)
    if part.isNone && power.isNone then
      if Text.maxDigits < whole.length then .error .excessive
      else
        let n : Int := digitsValue whole
        .ok (.int (if negative then -n else n), rest)
    else
      let ds := part.getD []
      let x := Binary64.ofDecimal negative (digitsValue (whole ++ ds)) (power.getD 0 - ds.length)
      .ok (.float x, rest)

/-- The characters that a number is made of. -/
def isNumberChar (c : Char) : Bool :=
  c.isDigit || c == '-' || c == '+' || c == '.' || c == 'e' || c == 'E'

/-- The characters of a number at the start of points. -/
def numberChars : Points → Text
  | .char c :: rest => if isNumberChar c then c :: numberChars rest else []
  | _ => []

end Shorthand.Json
