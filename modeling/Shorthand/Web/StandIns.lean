import Shorthand.Text.Points

set_option autoImplicit false
set_option relaxedAutoImplicit false

/-!
# Stand-ins for lone surrogates

A document holds characters, but a request may bring a text with lone surrogates. They go through
an edit as private characters that occur nowhere else, one for each surrogate, and are put back
after it.

## Main definitions

* `Shorthand.StandIns` — a block of private characters, one for each surrogate.
* `Shorthand.StandIns.fresh` — a block of which a text has no character.
* `Shorthand.StandIns.toText`, `Shorthand.StandIns.toPoints` — surrogates replaced, and put back.
-/

namespace Shorthand

/-- The number of surrogates. -/
def surrogateCount : Nat := 0x800

/-- A block of private characters, one for each surrogate. -/
structure StandIns where
  /-- The first character of the block. -/
  base : Nat := 0xF0000
  deriving DecidableEq, Repr

namespace StandIns

/-- Whether a character stands for a surrogate. -/
def holds (b : StandIns) (c : Char) : Bool := b.base ≤ c.toNat && c.toNat < b.base + surrogateCount

/-- The blocks of the private planes. -/
def blocks : List StandIns := (List.range 64).map fun i => ⟨0xF0000 + surrogateCount * i⟩

/-- A block of which a text has no character. -/
def fresh (used : Text) : StandIns := (blocks.find? fun b => !used.any b.holds).getD {}

/-- Points as a text, with the surrogates replaced. -/
def toText (b : StandIns) (s : Points) : Text :=
  s.map fun p => match p with
    | .char c => c
    | .lone n => Char.ofNat (b.base + (n - 0xD800))

/-- A text as points, with the surrogates put back. -/
def toPoints (b : StandIns) (s : Text) : Points :=
  s.map fun c => if b.holds c then .lone (0xD800 + (c.toNat - b.base)) else .char c

end StandIns

/-- The first run of lone surrogates from a position on: its first surrogate, its position and its
length. -/
def Points.loneRun? (position : Nat) : Points → Option (Nat × Nat × Nat)
  | [] => none
  | .char _ :: rest => loneRun? (position + 1) rest
  | .lone n :: rest => some (n, position, (rest.takeWhile fun p => p.char?.isNone).length + 1)

end Shorthand
