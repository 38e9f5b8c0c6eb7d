import Shorthand.Entries
import Shorthand.Path
import Shorthand.Text.Newlines

set_option autoImplicit false
set_option relaxedAutoImplicit false

/-!
# Files

The files that the program can see, and the directories that they are in. A name is followed part by
part, and every part but the last has to lead to a directory.

## Main definitions

* `Shorthand.Files` — what stands at which place.
* `Shorthand.Files.walk` — the place that a name leads to.
* `Shorthand.Files.read` — the bytes of a file, or why there are none.
* `Shorthand.Files.exists?` — whether something stands at a name.
* `Shorthand.Files.store`, `Shorthand.Files.remove` — changes.

## Main results

* `Shorthand.Files.node?_put` — what is put at a place stands there, and no other place changes.
-/

namespace Shorthand

/-- What stands at a name. -/
inductive Node where
  | file (bytes : List UInt8)
  | directory
  deriving DecidableEq, Repr

/-- Why a file could not be read, written or removed. -/
inductive FileFault where
  | missing
  | notDirectory
  | isDirectory
  | nameTooLong
  | exists
  deriving DecidableEq, Repr

namespace FileFault

/-- The number of a fault. -/
def number : FileFault → Nat
  | .missing => 2
  | .notDirectory => 20
  | .isDirectory => 21
  | .nameTooLong => 36
  | .exists => 17

/-- A fault in words. -/
def message : FileFault → Text
  | .missing => "No such file or directory".toList
  | .notDirectory => "Not a directory".toList
  | .isDirectory => "Is a directory".toList
  | .nameTooLong => "File name too long".toList
  | .exists => "File exists".toList

end FileFault

/-- A place: the parts that lead to it from the root, none of them a point or a double point. -/
abbrev Place := List Text

/-- The directories that every system has. -/
def commonDirectories : List Place :=
  [[], ["bin"], ["boot"], ["dev"], ["etc"], ["home"], ["lib"], ["media"], ["mnt"], ["opt"],
    ["proc"], ["root"], ["run"], ["sbin"], ["srv"], ["sys"], ["tmp"], ["usr"], ["usr", "bin"],
    ["usr", "games"], ["usr", "include"], ["usr", "lib"], ["usr", "local"], ["usr", "sbin"],
    ["usr", "share"], ["usr", "src"], ["var"], ["var", "backups"], ["var", "cache"], ["var", "lib"],
    ["var", "local"], ["var", "log"], ["var", "mail"], ["var", "opt"], ["var", "spool"],
    ["var", "tmp"]].map fun parts => parts.map String.toList

/-- The directories of the users that every system has. -/
def commonHomes : List (Text × Path) :=
  [("root", ["root"]), ("daemon", ["usr", "sbin"]), ("bin", ["bin"]), ("sys", ["dev"]),
    ("sync", ["bin"]), ("games", ["usr", "games"]), ("man", ["var", "cache", "man"]),
    ("lp", ["var", "spool", "lpd"]), ("mail", ["var", "mail"]), ("news", ["var", "spool", "news"]),
    ("uucp", ["var", "spool", "uucp"]), ("proxy", ["bin"]), ("www-data", ["var", "www"]),
    ("backup", ["var", "backups"]), ("list", ["var", "list"]), ("irc", ["run", "ircd"]),
    ("_apt", ["nonexistent"]), ("nobody", ["nonexistent"])].map fun (user, parts) =>
    (user.toList, { root := 1, parts := parts.map String.toList })

/-- The working directory where none is given. -/
def workingDirectory : Place := ["tmp".toList, "work".toList]

/-- The files that the program can see. -/
structure Files where
  /-- What stands at which place. -/
  nodes : List (Place × Node) :=
    (["dev".toList, "null".toList], .file []) ::
      (workingDirectory :: commonDirectories).map fun place => (place, .directory)
  /-- The working directory, from which names are followed that do not start at the root. -/
  here : Place := workingDirectory
  /-- The directories of the users; the current one has the empty name. -/
  homes : List (Text × Path) := ([], { parts := [] }) :: commonHomes
  /-- The directory of the configuration files. -/
  configHome : Path := { parts := ["xdg".toList] }

namespace Files

/-! ## Following names -/

/-- The longest name of a file, in bytes. -/
def maxPartBytes : Nat := 255

/-- The longest name with its directories, in bytes. -/
def maxPathBytes : Nat := 4095

/-- What stands at a place. -/
def node? (fs : Files) (place : Place) : Option Node := Entries.find? fs.nodes place

/-- A part of a name is followed from a place, which has to be a directory. Over the root there is
nothing more. -/
def enter (fs : Files) (place : Place) (part : Text) : Except FileFault Place :=
  match fs.node? place with
  | none => .error .missing
  | some (.file _) => .error .notDirectory
  | some .directory =>
    if part = ['.'] then .ok place
    else if part = ['.', '.'] then .ok place.dropLast
    else if maxPartBytes < Text.byteLength part then .error .nameTooLong
    else .ok (place ++ [part])

/-- Where a name starts. -/
def start (fs : Files) (p : Path) : Place := if p.isAbsolute then [] else fs.here

/-- The place that a name leads to. Something need not stand there yet. -/
def walk (fs : Files) (p : Path) : Except FileFault Place :=
  if maxPathBytes < Text.byteLength p.toText then .error .nameTooLong
  else p.parts.foldlM fs.enter (fs.start p)

/-- What stands at a name. -/
def find (fs : Files) (p : Path) : Except FileFault Node := do
  match fs.node? (← fs.walk p) with
  | some node => return node
  | none => throw .missing

/-- The bytes of a file. -/
def read (fs : Files) (p : Path) : Except FileFault (List UInt8) := do
  match ← fs.find p with
  | .file bytes => return bytes
  | .directory => throw .isDirectory

/-- Whether something stands at a name. A name that is too long is a fault. -/
def exists? (fs : Files) (p : Path) : Except FileFault Bool :=
  match fs.find p with
  | .ok _ => .ok true
  | .error .nameTooLong => .error .nameTooLong
  | .error _ => .ok false

/-- The directory of a user. -/
def home? (fs : Files) (user : Text) : Option Path := Entries.find? fs.homes user

/-! ## Changes -/

/-- The files with a node put at a place. -/
def put (fs : Files) (place : Place) (node : Node) : Files :=
  { fs with nodes := Entries.insert fs.nodes place node }

/-- **What is put at a place stands there,** and no other place changes. -/
theorem node?_put (fs : Files) (place other : Place) (node : Node) :
    (fs.put place node).node? other = if place = other then some node else fs.node? other :=
  Entries.find?_insert fs.nodes place other node

/-- A directory is made at a name at which nothing stands. -/
def makeDirectory (fs : Files) (p : Path) : Except FileFault Files := do
  let place ← fs.walk p
  match fs.node? place with
  | some _ => throw .exists
  | none => return fs.put place .directory

/-- A file is written at a name, over the one that stands there. -/
def write (fs : Files) (p : Path) (bytes : List UInt8) : Except FileFault Files := do
  let place ← fs.walk p
  match fs.node? place with
  | some .directory => throw .isDirectory
  | _ => return fs.put place (.file bytes)

/-- The parts of a name are followed from a place, and a directory is made wherever nothing
stands. What was made before a fault stays. -/
def makeDirectories (fs : Files) (place : Place) : List Text → Files × Option FileFault
  | [] =>
    match fs.node? place with
    | some .directory => (fs, none)
    | _ => (fs, some .exists)
  | part :: rest =>
    match fs.enter place part with
    | .error fault => (fs, some fault)
    | .ok next =>
      let fs := if (fs.node? next).isSome then fs else fs.put next .directory
      fs.makeDirectories next rest

/-- The directory of a name is made, with those that lead to it. -/
def makeParent (fs : Files) (p : Path) : Files × Option FileFault :=
  if maxPathBytes < Text.byteLength p.parent.toText then (fs, some .nameTooLong)
  else fs.makeDirectories (fs.start p) p.parent.parts

/-- A node is put at a name, and the directories that lead to it are made. A file takes the place
of a file; a directory takes the place of nothing. What was made before a fault stays. -/
def store (fs : Files) (p : Path) (node : Node) : Files × Option FileFault :=
  match fs.makeParent p with
  | (fs, some fault) => (fs, some fault)
  | (fs, none) =>
    match (match node with
      | .file bytes => fs.write p bytes
      | .directory => fs.makeDirectory p) with
    | .ok fs => (fs, none)
    | .error fault => (fs, some fault)

/-- The files without the file at a name, which is taken as it is spelled: a slash after the name
of a file asks for a directory. -/
def remove (fs : Files) (name : Text) : Except FileFault Files := do
  if name.isEmpty then throw .missing
  if maxPathBytes < Text.byteLength name then throw .nameTooLong
  let parts := (Text.splitOn ['/'] name).filter (!·.isEmpty)
  let place ← parts.foldlM fs.enter (if name.head? = some '/' then [] else fs.here)
  match fs.node? place with
  | none => throw .missing
  | some .directory => throw .isDirectory
  | some (.file _) =>
    if name.getLast? = some '/' then throw .notDirectory
    else return { fs with nodes := fs.nodes.filter fun (other, _) => other != place }

end Files

end Shorthand
