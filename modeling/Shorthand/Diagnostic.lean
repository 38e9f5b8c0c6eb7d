import Shorthand.Text.Blank
import Shorthand.Text.Quoted

set_option autoImplicit false
set_option relaxedAutoImplicit false

/-!
# Malformed records

A record of a snippet source that defines no snippet is reported with its place and the reason.

## Main definitions

* `Shorthand.Divider` — what separates records, or a trigger from its expansion.
* `Shorthand.Reason`, `Shorthand.Diagnostic` — why a record defines nothing.
-/

namespace Shorthand

/-- What separates records, or the trigger of a record from its expansion. -/
inductive Divider where
  /-- A text that stands between the parts. -/
  | text (t : Text)
  /-- Any run of blanks; blanks at the ends separate nothing. -/
  | blanks
  /-- A value that cannot separate anything. -/
  | unusable
  deriving DecidableEq, Repr

/-- How a message shows a divider. -/
def Divider.literal : Divider → Text
  | .text t => Text.quoted t
  | .blanks => "None".toList
  | .unusable => []

/-- Why a record defines no snippet. -/
inductive Reason where
  | missingDivider (divider : Divider)
  | emptyTrigger
  deriving DecidableEq, Repr

/-- The reason in words. -/
def Reason.message : Reason → Text
  | .missingDivider d => "missing part divider ".toList ++ d.literal
  | .emptyTrigger => "empty trigger".toList

/-- A record that defines no snippet. -/
structure Diagnostic where
  /-- The place of the record in its source, blank records counted. -/
  index : Nat
  /-- The record without blanks at its ends. -/
  record : Text
  reason : Reason
  deriving DecidableEq, Repr

end Shorthand
