import Shorthand.Text.Points
import Shorthand.Text.Utf8

set_option autoImplicit false
set_option relaxedAutoImplicit false

/-!
# JSON texts as bytes

A JSON text starts with two ASCII characters, unless it has only one. So the zeros among its first
bytes tell how wide its units are and which end of them comes first; without zeros it is UTF-8,
and may have a byte order mark.

## Main definitions

* `Shorthand.Json.Encoding` — how a JSON text is written in bytes.
* `Shorthand.Json.Encoding.detect` — the encoding that bytes show.
* `Shorthand.Json.decode?` — the points that bytes hold.
-/

namespace Shorthand.Json

/-- Which end of a unit comes first. -/
inductive Endian where
  | big
  | little
  deriving DecidableEq, Repr

/-- How a JSON text is written in bytes. -/
inductive Encoding where
  | utf8
  | utf16 (order : Endian)
  | utf32 (order : Endian)
  deriving DecidableEq, Repr

/-- The byte order mark of UTF-8. -/
def byteOrderMark : List UInt8 := [0xEF, 0xBB, 0xBF]

/-- The encoding that bytes show. -/
def Encoding.detect : List UInt8 → Encoding
  | [a, b] => if a = 0 then .utf16 .big else if b = 0 then .utf16 .little else .utf8
  | a :: b :: c :: d :: _ =>
    if a = 0 then if b = 0 then .utf32 .big else .utf16 .big
    else if b = 0 then if c = 0 && d = 0 then .utf32 .little else .utf16 .little
    else .utf8
  | _ => .utf8

/-- The number that two bytes make. -/
def Endian.join : Endian → Nat → Nat → Nat
  | .big, first, second => 0x100 * first + second
  | .little, first, second => 0x100 * second + first

/-- The numbers that bytes make, two each; there are none when one is left over. -/
def units16 (order : Endian) : List UInt8 → Option (List Nat)
  | [] => some []
  | [_] => none
  | a :: b :: rest => (units16 order rest).map (order.join a.toNat b.toNat :: ·)

/-- The numbers that bytes make, four each; there are none when some are left over. -/
def units32 (order : Endian) : List UInt8 → Option (List Nat)
  | [] => some []
  | a :: b :: c :: d :: rest =>
    let high := order.join a.toNat b.toNat
    let low := order.join c.toNat d.toNat
    let n := match order with
      | .big => 0x10000 * high + low
      | .little => 0x10000 * low + high
    (units32 order rest).map (n :: ·)
  | _ => none

/-- The points that bytes hold in an encoding. -/
def Encoding.decode? : Encoding → List UInt8 → Option Points
  | .utf8, bytes =>
    let body := if byteOrderMark.isPrefixOf bytes then bytes.drop byteOrderMark.length else bytes
    (Text.decode? body).map Points.ofText
  | .utf16 order, bytes => (units16 order bytes).bind Points.ofUnits
  | .utf32 order, bytes => (units32 order bytes).bind fun ns => ns.mapM Point.ofNat?

/-- The points that bytes hold, in the encoding that they show. -/
def decode? (bytes : List UInt8) : Option Points := (Encoding.detect bytes).decode? bytes

end Shorthand.Json
