import Shorthand.Calendar
import Shorthand.Decimal.Shortest
import Shorthand.Entries

set_option autoImplicit false
set_option relaxedAutoImplicit false

/-!
# Values

What a configuration file, a request body or an override can hold. A field of the settings takes any
value; only when it is used does it have to be of a kind.

## Main definitions

* `Shorthand.Value` — null, truth values, numbers, texts, moments, arrays and tables.
* `Shorthand.Value.isTrue` — what counts as true where a truth value is wanted.
* `Shorthand.Value.agrees` — equality of values: numbers and truth values by their numeric value,
  tables whatever the order of their entries.
* `Shorthand.Value.withoutNulls` — the table without the null entries of it and its subtables.
-/

namespace Shorthand

/-- A value. -/
inductive Value where
  | null
  | bool (b : Bool)
  | int (n : Int)
  | float (x : Binary64)
  | text (s : Text)
  | moment (m : Moment)
  | array (items : List Value)
  | table (entries : List (Text × Value))
  deriving Inhabited

namespace Value

/-- The text that a value is, if it is one. -/
def text? : Value → Option Text
  | .text s => some s
  | _ => none

/-- What counts as true: everything but null, false, the numbers zero and what is empty. -/
def isTrue : Value → Bool
  | .null => false
  | .bool b => b
  | .int n => n != 0
  | .float x => x.isNonzero
  | .text s => !s.isEmpty
  | .moment _ => true
  | .array items => !items.isEmpty
  | .table entries => !entries.isEmpty

/-! ## Equality -/

/-- The integer that a truth value or an integer stands for. -/
def count? : Value → Option Int
  | .bool b => some (if b then 1 else 0)
  | .int n => some n
  | _ => none

/-- Equality of two values that are neither arrays nor tables. With `reflexive` not-a-number agrees
with itself. -/
def scalarAgrees (reflexive : Bool) (a b : Value) : Bool :=
  match a, b with
  | .null, .null => true
  | .text s, .text t => s == t
  | .moment m, .moment n => m == n
  | .float .nan, .float .nan => reflexive
  | .float x, .float y => x.beq y
  | .float x, b => (count? b).any fun n => x.toInt? == some n
  | a, .float y => (count? a).any fun n => y.toInt? == some n
  | a, b => match count? a, count? b with
    | some m, some n => m == n
    | _, _ => false

mutual

/-- Equality of values. With `reflexive` not-a-number agrees with itself, as it does in a value that
is compared with itself. -/
def agrees (reflexive : Bool) : Value → Value → Bool
  | .array xs, .array ys => itemsAgree reflexive xs ys
  | .table es, .table fs => es.length == fs.length && entriesAgree reflexive es fs
  | .array _, _ => false
  | .table _, _ => false
  | a, b => scalarAgrees reflexive a b

/-- Equality of arrays, item by item. -/
def itemsAgree (reflexive : Bool) : List Value → List Value → Bool
  | [], [] => true
  | x :: xs, y :: ys => agrees reflexive x y && itemsAgree reflexive xs ys
  | _, _ => false

/-- Every entry of the first table is found in the second. -/
def entriesAgree (reflexive : Bool) : List (Text × Value) → List (Text × Value) → Bool
  | [], _ => true
  | (k, v) :: es, fs =>
    (match Entries.find? fs k with
      | some w => agrees reflexive v w
      | none => false) && entriesAgree reflexive es fs

end

/-! ## Nulls -/

mutual

/-- A value whose table entries that are null are gone, in it and in its subtables. An array stays
as it is. -/
def withoutNulls : Value → Value
  | .table entries => .table (entriesWithoutNulls entries)
  | v => v

/-- The entries that are not null, in order, each without its own nulls. -/
def entriesWithoutNulls : List (Text × Value) → List (Text × Value)
  | [] => []
  | (_, .null) :: rest => entriesWithoutNulls rest
  | (k, v) :: rest => (k, withoutNulls v) :: entriesWithoutNulls rest

end

end Value

end Shorthand
