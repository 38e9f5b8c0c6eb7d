import Shorthand.Text.Integer
import Shorthand.Text.Quoted
import Shorthand.Value.Basic

set_option autoImplicit false
set_option relaxedAutoImplicit false

/-!
# Values in messages

How a message shows a value. Texts are quoted, so that no two values look alike.

## Main definitions

* `Shorthand.Value.literal` — the value with its texts quoted.
* `Shorthand.Value.plain` — the value as it stands in running text: a text as it is.
* `Shorthand.Value.isTooLong` — whether a value cannot be shown, for a number in it has too many
  digits.
-/

namespace Shorthand.Value

mutual

/-- A value as a message shows it. -/
def literal : Value → Text
  | .null => "None".toList
  | .bool b => if b then "True".toList else "False".toList
  | .int n => Text.ofInt n
  | .float x => x.toText
  | .text s => Text.quoted s
  | .moment m => m.literal
  | .array items => '[' :: itemLiterals items ++ [']']
  | .table entries => '\x7b' :: entryLiterals entries ++ ['\x7d']

/-- The items of an array, between commas. -/
def itemLiterals : List Value → Text
  | [] => []
  | [v] => literal v
  | v :: rest => literal v ++ ", ".toList ++ itemLiterals rest

/-- The entries of a table, between commas. -/
def entryLiterals : List (Text × Value) → Text
  | [] => []
  | [(k, v)] => Text.quoted k ++ ": ".toList ++ literal v
  | (k, v) :: rest => Text.quoted k ++ ": ".toList ++ literal v ++ ", ".toList ++ entryLiterals rest

end

/-- A value in running text. -/
def plain : Value → Text
  | .text s => s
  | .moment m => m.toText ' '
  | v => literal v

/-- Whether an integer has too many digits to be shown. -/
def isTooLongInt (n : Int) : Bool := Nat.pow 10 Text.maxDigits ≤ n.natAbs

mutual

/-- Whether a value cannot be shown, for a number in it has too many digits. -/
def isTooLong : Value → Bool
  | .int n => isTooLongInt n
  | .array items => itemsAreTooLong items
  | .table entries => entriesAreTooLong entries
  | _ => false

/-- Whether an item cannot be shown. -/
def itemsAreTooLong : List Value → Bool
  | [] => false
  | v :: rest => isTooLong v || itemsAreTooLong rest

/-- Whether the value of an entry cannot be shown. -/
def entriesAreTooLong : List (Text × Value) → Bool
  | [] => false
  | (_, v) :: rest => isTooLong v || entriesAreTooLong rest

end

end Shorthand.Value
