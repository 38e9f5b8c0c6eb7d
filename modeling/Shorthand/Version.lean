import Shorthand.Text.Basic

set_option autoImplicit false
set_option relaxedAutoImplicit false

/-!
# The name and version of the program

What the command line and the server say about themselves.

## Main definitions

* `Shorthand.programName`, `Shorthand.displayName`, `Shorthand.version`.
-/

namespace Shorthand

/-- The name of the command. -/
def programName : Text := "jelly-snippets".toList

/-- The name of the program in words. -/
def displayName : Text := "Jelly Snippets".toList

/-- The version. -/
def version : Text := "0.1.0".toList

end Shorthand
