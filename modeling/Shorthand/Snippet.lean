import Shorthand.Text.Basic

set_option autoImplicit false
set_option relaxedAutoImplicit false

/-!
# Snippets

A snippet is a trigger, which a user types, with the expansion that replaces it.

## Main definitions

* `Shorthand.Expansion` — the text to insert, and where the cursor rests in it.
* `Shorthand.Snippet` — a trigger with its expansion.
* `Shorthand.Shape` — whether a trigger and an expansion have line breaks.

## Main results

* `Shorthand.Shape.code_lt` — the code of a shape has two bits.
-/

namespace Shorthand

/-- The text that replaces a trigger. -/
structure Expansion where
  /-- The text to insert. -/
  text : Text
  /-- How far before the end of the inserted text the cursor rests. -/
  cursorBack : Int := 0
  /-- Whether the text is said to have a line break. -/
  hasBreak : Bool := false
  deriving DecidableEq, Repr

/-- A trigger with its expansion. -/
structure Snippet where
  trigger : Text
  expansion : Expansion
  deriving DecidableEq, Repr

/-- Whether the trigger and the expansion of a snippet have line breaks. -/
structure Shape where
  breakInTrigger : Bool
  breakInExpansion : Bool
  deriving DecidableEq, Repr

namespace Shape

/-- A snippet without any line break. -/
def oneLine : Shape := ⟨false, false⟩

/-- Bit 0 is set for a line break in the expansion, bit 1 for one in the trigger. -/
def code (s : Shape) : Nat :=
  (if s.breakInTrigger then 2 else 0) + if s.breakInExpansion then 1 else 0

/-- **The code of a shape has two bits.** -/
theorem code_lt (s : Shape) : s.code < 4 := by
  obtain ⟨a, b⟩ := s
  cases a <;> cases b <;> decide

/-- The name of a shape: single- or multi-line left-hand side, single- or multi-line right-hand
side. -/
def name (s : Shape) : Text :=
  (if s.breakInTrigger then "ML".toList else "SL".toList) ++
    if s.breakInExpansion then "MR".toList else "SR".toList

end Shape

/-- The shape of a snippet: every snippet has one. The expansion is taken at its word. -/
def Snippet.shape (s : Snippet) : Shape :=
  ⟨s.trigger.contains '\n', s.expansion.hasBreak⟩

end Shorthand
