import Shorthand.Decimal.Binary64
import Shorthand.Text.Basic

set_option autoImplicit false
set_option relaxedAutoImplicit false

/-!
# The shortest decimal text of a double

A double is written with the fewest decimal digits that read back as the same double; of several
such numbers the nearest to the double is taken, and of two equally near ones the even one.

All comparisons are exact: the numbers that round to `m · 2 ^ e` form an interval, whose ends belong
to it when `m` is even, and a decimal grid of `n` digits either has one of the two neighbours of
the double in that interval or has no point in it at all.

## Main definitions

* `Shorthand.Binary64.shortest` — the fewest digits, with their power of ten.
* `Shorthand.Binary64.toText` — the text: positional between `10 ^ -4` and `10 ^ 16`, with `.0`
  after an integer, and with an exponent of at least two digits elsewhere.
-/

namespace Shorthand.Binary64

/-! ## Exact comparison -/

/-- `x · 10 ^ p` and `y · 2 ^ q` over a common denominator. -/
def align (x : Nat) (p : Int) (y : Nat) (q : Int) : Nat × Nat :=
  (x * Nat.pow 10 p.toNat * Nat.pow 2 (-q).toNat, y * Nat.pow 2 q.toNat * Nat.pow 10 (-p).toNat)

/-- The greatest `a` with `a · 10 ^ p ≤ y · 2 ^ q`. -/
def gridFloor (p : Int) (y : Nat) (q : Int) : Nat :=
  let (unit, value) := align 1 p y q
  value / unit

/-! ## Digits -/

/-- The interval of the numbers that round to `m · 2 ^ e`, in units of `2 ^ (e - 2)`, and whether
its ends belong to it. Below a power of two the next double is half as far. -/
def roundingInterval (m : Nat) (e : Int) : Nat × Nat × Bool :=
  let below := if m = leastMantissa && minExponent < e then 1 else 2
  (4 * m - below, 4 * m + 2, m % 2 == 0)

/-- Whether `a · 10 ^ p` rounds to `m · 2 ^ e`. -/
def readsBack (m : Nat) (e : Int) (a : Nat) (p : Int) : Bool :=
  let (low, high, closed) := roundingInterval m e
  let (x, lo) := align a p low (e - 2)
  let (y, hi) := align a p high (e - 2)
  if closed then lo ≤ x && y ≤ hi else lo < x && y < hi

/-- The point of the grid `10 ^ p` that reads back as `m · 2 ^ e`: the nearer of the two neighbours,
and the even one of two equally near ones. -/
def gridPoint? (m : Nat) (e p : Int) : Option Nat :=
  let a := gridFloor p m e
  let down := readsBack m e a p
  let up := readsBack m e (a + 1) p
  if down && up then
    let (middle, value) := align (2 * a + 1) p (2 * m) e
    if value < middle || (value == middle && a % 2 == 0) then some a else some (a + 1)
  else if down then some a
  else if up then some (a + 1)
  else none

/-- The decimal order of a positive double: the greatest `d` with `10 ^ d ≤ m · 2 ^ e`, found from
`d` downwards. -/
def orderFrom (m : Nat) (e : Int) : Nat → Int → Int
  | 0, d => d
  | fuel + 1, d =>
    let (power, value) := align 1 d m e
    if power ≤ value then d else orderFrom m e fuel (d - 1)

/-- The decimal order of a positive double. -/
def order (m : Nat) (e : Int) : Int := orderFrom m e 700 310

/-- The first grid, from `count` digits on, with a point that reads back. -/
def shortestFrom (m : Nat) (e d : Int) : Nat → Nat → Nat × Int
  | 0, _ => (m, 0)
  | fuel + 1, count =>
    let p := d - count + 1
    match gridPoint? m e p with
    | some a => (a, p)
    | none => shortestFrom m e d fuel (count + 1)

/-- The fewest digits that read back as `m · 2 ^ e`, with their power of ten. Seventeen always
do. -/
def shortest (m : Nat) (e : Int) : Nat × Int := shortestFrom m e (order m e) 18 1

/-! ## The text -/

/-- The text of a positive finite double. -/
def digitsToText (digits : Text) (power : Int) : Text :=
  let point := power + digits.length
  if -4 < point && point ≤ 16 then
    if point ≤ 0 then '0' :: '.' :: List.replicate (-point).toNat '0' ++ digits
    else if digits.length ≤ point.toNat then
      digits ++ List.replicate (point.toNat - digits.length) '0' ++ ['.', '0']
    else digits.take point.toNat ++ '.' :: digits.drop point.toNat
  else
    let mantissa := match digits with
      | [] => []
      | [d] => [d]
      | d :: rest => d :: '.' :: rest
    let exponent := point - 1
    mantissa ++ 'e' :: (if exponent < 0 then '-' else '+') ::
      Text.padLeft 2 '0' (Text.ofNat exponent.natAbs)

/-- The text of a double. -/
def toText : Binary64 → Text
  | .nan => "nan".toList
  | .infinite s => if s then "-inf".toList else "inf".toList
  | .finite s m e =>
    let body := if m = 0 then "0.0".toList else
      let (digits, power) := shortest m e
      let written := Text.ofNat digits
      let kept := (written.reverse.dropWhile (· == '0')).reverse
      digitsToText kept (power + (written.length - kept.length : Nat))
    if s then '-' :: body else body

end Shorthand.Binary64
