import Shorthand.Text.Utf8

set_option autoImplicit false
set_option relaxedAutoImplicit false

/-!
# File names

A file name is a list of parts between slashes. Empty parts and single points are dropped, so that
two spellings of one name are equal; a double point stays, for it can only be followed where it
leads.

## Main definitions

* `Shorthand.Path` — the parts of a name, with the slashes it starts with.
* `Shorthand.Path.parse`, `Shorthand.Path.toText` — from and to texts.
* `Shorthand.Path.expandHome` — the name with a leading tilde resolved.
-/

namespace Shorthand

/-- A file name: none, one or two slashes, and parts that are neither empty nor a single point. -/
structure Path where
  root : Nat := 0
  parts : List Text
  deriving DecidableEq, Repr

namespace Path

/-- The parts of a text between slashes. -/
def parse (s : Text) : Path :=
  let slashes := (s.takeWhile (· == '/')).length
  { root := if slashes = 2 then 2 else min slashes 1
    parts := (Text.splitOn ['/'] s).filter fun part => !part.isEmpty && part != ['.'] }

/-- The text of a name; the name without parts is the current directory. -/
def toText (p : Path) : Text :=
  if p.root = 0 && p.parts.isEmpty then ['.']
  else List.replicate p.root '/' ++ Text.join ['/'] p.parts

/-- A name is absolute when it starts with a slash. -/
def isAbsolute (p : Path) : Bool := p.root != 0

/-- The name `rest` seen from `p`. -/
def append (p rest : Path) : Path :=
  if rest.isAbsolute then rest else { p with parts := p.parts ++ rest.parts }

/-- The directory of a name. -/
def parent (p : Path) : Path := { p with parts := p.parts.dropLast }

/-- The name with a leading `~` or `~user` replaced by that user's directory; `home?` knows the
directories, that of the current user under the empty name. There is no name when the user is not
known. -/
def expandHome (home? : Text → Option Path) (p : Path) : Option Path :=
  match p.isAbsolute, p.parts with
  | false, ('~' :: user) :: rest =>
    (home? user).map fun home => { home with parts := home.parts ++ rest }
  | _, _ => some p

end Path

end Shorthand
