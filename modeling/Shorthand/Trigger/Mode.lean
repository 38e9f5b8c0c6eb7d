import Shorthand.Log

set_option autoImplicit false
set_option relaxedAutoImplicit false

/-!
# Trigger modes

Whether a key expands triggers by itself, and whether the white space of the key stays when it does.

## Main definitions

* `Shorthand.Mode` — the three modes.
* `Shorthand.Mode.ofValue?` — the mode that a setting gives.
* `Shorthand.Mode.ofValue` — the same; what is no mode disables the key.
* `Shorthand.Mode.report` — what is no mode is reported.

## Main results

* `Shorthand.Mode.ofValue?_name` — the name of a mode gives that mode.
-/

namespace Shorthand

/-- How a key expands triggers. -/
inductive Mode where
  | disabled
  | enabled
  | enabledWithWhitespace
  deriving DecidableEq, Repr

namespace Mode

/-- The name of a mode. -/
def name : Mode → Text
  | .disabled => "disabled".toList
  | .enabled => "enabled".toList
  | .enabledWithWhitespace => "enabled-with-whitespace".toList

/-- All modes. -/
def all : List Mode := [.disabled, .enabled, .enabledWithWhitespace]

/-- The mode that a setting gives: a truth value enables or disables, a text names a mode. -/
def ofValue? : Value → Option Mode
  | .bool b => some (if b then .enabled else .disabled)
  | .text s => all.find? fun m => m.name == s
  | _ => none

/-- The mode that a setting gives; what is no mode disables. -/
def ofValue (v : Value) : Mode := (ofValue? v).getD .disabled

/-- What comes of reporting a setting that is no mode. Some values cannot be put into words. -/
def report (handling : Log.Handling) (v : Value) : Log × Except Failure Unit :=
  if (ofValue? v).isSome then ([], .ok ())
  else handling.report (if v.isTooLong then .error .numberTooLong else .ok (.unknownMode v))

/-- What comes of reporting settings, one after the other, up to one that the log fails at. -/
def reportAll (handling : Log.Handling) : List Value → Log × Except Failure Unit
  | [] => ([], .ok ())
  | v :: rest =>
    match report handling v with
    | (log, .error f) => (log, .error f)
    | (log, .ok ()) =>
      let (more, result) := reportAll handling rest
      (log ++ more, result)

/-- **The name of a mode gives that mode.** -/
theorem ofValue?_name (m : Mode) : ofValue? (.text m.name) = some m := by
  cases m <;> decide

end Mode

end Shorthand
