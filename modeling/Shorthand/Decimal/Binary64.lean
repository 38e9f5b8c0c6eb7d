set_option autoImplicit false
set_option relaxedAutoImplicit false

/-!
# Double-precision numbers

The numbers of the binary interchange format with 64 bits, held as what they are: a sign, a mantissa
and an exponent of two. A decimal text is read to the nearest of them, a tie going to the even
mantissa.

## Main definitions

* `Shorthand.Binary64` — not a number, the infinities, and the finite numbers.
* `Shorthand.Binary64.ofRatio` — the double nearest to a positive fraction.
* `Shorthand.Binary64.ofDecimal` — the double nearest to `digits · 10 ^ exponent`.
* `Shorthand.Binary64.beq` — numeric equality, by which not-a-number differs from itself and the two
  zeros agree.

## Main results

* `Shorthand.Binary64.not_beq_nan` — not-a-number equals nothing.
-/

namespace Shorthand

/-- A double: a finite one is `± mantissa · 2 ^ exponent`, with `mantissa < 2 ^ 53` and
`-1074 ≤ exponent ≤ 971`, and with `2 ^ 52 ≤ mantissa` unless the exponent is the least one. -/
inductive Binary64 where
  | nan
  | infinite (negative : Bool)
  | finite (negative : Bool) (mantissa : Nat) (exponent : Int)
  deriving DecidableEq, Repr, Inhabited

namespace Binary64

/-- The least exponent of a finite double. -/
def minExponent : Int := -1074

/-- The greatest exponent of a finite double. -/
def maxExponent : Int := 971

/-- The least mantissa of 53 binary digits, `2 ^ 52`: mantissas run from here to below twice this,
unless the exponent is the least one. -/
def leastMantissa : Nat := 4503599627370496

/-- The zero of a sign. -/
def zero (negative : Bool) : Binary64 := .finite negative 0 minExponent

/-- `num / den` rounded to the nearest integer, a tie going to the even one. -/
def roundDiv (num den : Nat) : Nat :=
  let q := num / den
  let r := num % den
  if den < 2 * r || (2 * r == den && q % 2 == 1) then q + 1 else q

/-- `num / den · 2 ^ k` as a fraction of two natural numbers. -/
def scale (num den : Nat) (k : Int) : Nat × Nat :=
  if 0 ≤ k then (num * Nat.pow 2 k.toNat, den) else (num, den * Nat.pow 2 (-k).toNat)

/-- The double nearest to the positive fraction `num / den`. -/
def ofRatio (negative : Bool) (num den : Nat) : Binary64 :=
  let guess : Int := (num.log2 : Int) - den.log2
  let (a, b) := scale num den (-guess)
  let top := if b ≤ a then guess else guess - 1
  let e := max (top - 52) minExponent
  let (a, b) := scale num den (-e)
  let m := roundDiv a b
  let (m, e) := if m = 2 * leastMantissa then (leastMantissa, e + 1) else (m, e)
  if m = 0 then zero negative
  else if maxExponent < e then .infinite negative
  else .finite negative m e

/-- The double nearest to `± digits · 10 ^ exponent`. Beyond `10 ^ 310` there is only infinity and
below `10 ^ -330` only zero. -/
def ofDecimal (negative : Bool) (digits : Nat) (exponent : Int) : Binary64 :=
  let size := exponent + (Nat.toDigits 10 digits).length
  if digits = 0 then zero negative
  else if 310 < size then .infinite negative
  else if size < -330 then zero negative
  else if 0 ≤ exponent then ofRatio negative (digits * Nat.pow 10 exponent.toNat) 1
  else ofRatio negative digits (Nat.pow 10 (-exponent).toNat)

/-- Numeric equality of doubles. -/
def beq : Binary64 → Binary64 → Bool
  | .finite s m e, .finite t n f => (m == 0 && n == 0) || (s == t && m == n && e == f)
  | .infinite s, .infinite t => s == t
  | _, _ => false

/-- **Not-a-number equals nothing,** itself included. -/
theorem not_beq_nan (x : Binary64) : beq nan x = false ∧ beq x nan = false := by
  cases x <;> exact ⟨rfl, rfl⟩

/-- The integer that a double is, if it is one. -/
def toInt? : Binary64 → Option Int
  | .finite s m e =>
    let (value, unit) := scale m 1 e
    if value % unit = 0 then
      let n := value / unit
      some (if s then -(n : Int) else n)
    else none
  | _ => none

/-- A finite double without its fraction. -/
def truncate? : Binary64 → Option Int
  | .finite s m e =>
    let (value, unit) := scale m 1 e
    let n := value / unit
    some (if s then -(n : Int) else n)
  | _ => none

/-- Neither of the two zeros. -/
def isNonzero : Binary64 → Bool
  | .finite _ m _ => m != 0
  | _ => true

end Binary64

end Shorthand
