import Shorthand.Text.Basic

set_option autoImplicit false
set_option relaxedAutoImplicit false

/-!
# Names of any script in ASCII

A label of a domain name with characters beyond ASCII is sent in a form that has none: first its
characters of ASCII, then, after a hyphen, numbers that say which other characters are to be put
in, and where, in ascending order. Each number counts the steps from the last insertion to the
next, where a step goes to the next place in the label, or from its end to the next character and
the first place. The numbers are written in base 36, the least digit first, and end with a digit
below a threshold that follows the size of the numbers before.

## Main definitions

* `Shorthand.Address.Punycode.encode` — a label in ASCII.
* `Shorthand.Address.Punycode.decode?` — the label that a text of ASCII stands for.

## Main results

* `Shorthand.Address.Punycode.length_of_readDelta` — reading a number takes characters away.
-/

namespace Shorthand.Address.Punycode

/-- The character of a digit in base 36: the letters come first. -/
def digitChar (d : Nat) : Char :=
  Char.ofNat (if d < 26 then 'a'.toNat + d else '0'.toNat + (d - 26))

/-- The digit of a character, of either case. -/
def digit? (c : Char) : Option Nat :=
  if c.isDigit then some (c.toNat - '0'.toNat + 26)
  else if c.isAlpha then some (c.toLower.toNat - 'a'.toNat)
  else none

/-- A number ends with a digit below the threshold of its place. The places count in steps of 36,
from 36 on. -/
def threshold (bias place : Nat) : Nat := max 1 (min 26 (place - bias))

/-- A threshold is positive. -/
theorem threshold_pos (bias place : Nat) : 0 < threshold bias place := by
  simp only [threshold]; omega

/-- The bias that goes with numbers of about the size `delta`. -/
def biasOf (delta : Nat) : Nat :=
  if 455 < delta then 36 + biasOf (delta / 35) else 36 * delta / (delta + 38)
termination_by delta
decreasing_by omega

/-- The bias after the number `delta`, when the label has now `count` characters. The first number
says less of those to come than the others. -/
def adapt (first : Bool) (delta count : Nat) : Nat :=
  let delta := delta / (if first then 700 else 2)
  biasOf (delta + delta / count)

/-! ## Writing -/

/-- The digits of a number from a place on. -/
def writeDelta (bias place delta : Nat) : Text :=
  let t := threshold bias place
  if delta < t then [digitChar delta]
  else digitChar (t + (delta - t) % (36 - t)) ::
    writeDelta bias (place + 36) ((delta - t) / (36 - t))
termination_by delta
decreasing_by
  have := threshold_pos bias place
  exact Nat.lt_of_le_of_lt (Nat.div_le_self _ _) (by omega)

/-- A label that is being written. -/
structure Writing where
  /-- What is written. -/
  written : Text
  /-- The steps since the last insertion. -/
  delta : Nat
  bias : Nat
  /-- How many characters are in the label. -/
  count : Nat
  /-- Whether nothing is put in yet. -/
  first : Bool

/-- Pass a character of the label on the way to the places of `point`, and put that in where it
is. -/
def Writing.pass (point : Nat) (w : Writing) (c : Char) : Writing :=
  if c.toNat < point then { w with delta := w.delta + 1 }
  else if c.toNat = point then
    { written := w.written ++ writeDelta w.bias 36 w.delta
      delta := 0
      bias := adapt w.first w.delta (w.count + 1)
      count := w.count + 1
      first := false }
  else w

/-- Put the characters `points` into the label at all their places, after those below `reached`. -/
def writePoints (label : Text) (reached : Nat) (w : Writing) : List Nat → Text
  | [] => w.written
  | point :: rest =>
    let passed :=
      label.foldl (Writing.pass point)
        { w with delta := w.delta + (point - reached) * (w.count + 1) }
    writePoints label (point + 1) { passed with delta := passed.delta + 1 } rest

/-- The code points beyond ASCII in a label, ascending and each once. -/
def points (label : Text) : List Nat :=
  let beyond := (label.map Char.toNat).filter (0x80 ≤ ·)
  (beyond.mergeSort (· ≤ ·)).eraseDups

/-- A label in ASCII. -/
def encode (label : Text) : Text :=
  let basic := label.filter fun c => c.toNat < 0x80
  let start := { written := [], delta := 0, bias := 72, count := basic.length, first := true }
  basic ++ (if basic.isEmpty then [] else ['-']) ++ writePoints label 0x80 start (points label)

/-! ## Reading -/

/-- Read a number from a place on, whose digits count `weight` times as much there, and add it to
`delta`. -/
def readDelta (bias place weight delta : Nat) : Text → Option (Nat × Text)
  | [] => none
  | c :: rest =>
    match digit? c with
    | none => none
    | some d =>
      if d < threshold bias place then some (delta + d * weight, rest)
      else
        readDelta bias (place + 36) (weight * (36 - threshold bias place)) (delta + d * weight) rest

/-- **Reading a number takes characters away.** -/
theorem length_of_readDelta {bias place weight delta value : Nat} {s rest : Text}
    (h : readDelta bias place weight delta s = some (value, rest)) : rest.length < s.length := by
  induction s generalizing place weight delta with
  | nil => simp [readDelta] at h
  | cons c s ih =>
    simp only [readDelta] at h
    split at h
    case h_1 => simp at h
    case h_2 =>
      split at h
      case isTrue => simp_all
      case isFalse => exact Nat.lt_succ_of_lt (ih h)

/-- Put the characters that the numbers in a text say into a label, from a character and a place
on. -/
def readPoints (first : Bool) (bias point place : Nat) (label s : Text) : Option Text :=
  if s.isEmpty then some label
  else match h : readDelta bias 36 1 0 s with
    | none => none
    | some (delta, rest) =>
      let count := label.length + 1
      let point := point + (place + delta) / count
      let place := (place + delta) % count
      if point.isValidChar then
        readPoints false (adapt first delta count) point (place + 1)
          (label.insertIdx place (Char.ofNat point)) rest
      else none
termination_by s.length
decreasing_by exact length_of_readDelta h

/-- The label that a text of ASCII stands for. Its characters of ASCII end at the last hyphen. -/
def decode? (s : Text) : Option Text :=
  let numbers := (s.reverse.takeWhile (· != '-')).reverse
  readPoints true 72 0x80 0 (s.take (s.length - numbers.length - 1)) numbers

end Shorthand.Address.Punycode
