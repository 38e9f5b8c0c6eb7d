import Shorthand.CommandLine.Run

set_option autoImplicit false
set_option relaxedAutoImplicit false

/-!
# The program

The outer layer of the command: it takes the arguments, the files that they name and the standard
input from the system, runs the command on them, and hands back what it leaves behind. The command
itself opens no connection.

## Main definitions

* `main` — the entry point.
-/

namespace Shorthand.CommandLine

/-- The files with one of the system added. What cannot be read stays out. -/
def fetch (files : Files) (p : Path) : IO Files := do
  match ← (IO.FS.readBinFile (String.ofList p.toText)).toBaseIO with
  | .ok bytes => return (files.store p (.file bytes.toList)).1
  | .error (.inappropriateType _ _ _) => return (files.store p .directory).1
  | .error _ => return files

/-- The directories that the system gives to the user. -/
def homeFiles : IO Files := do
  let home := Path.parse ((← IO.getEnv "HOME").getD "/").toList
  let configHome := match ← IO.getEnv "XDG_CONFIG_HOME" with
    | some dir => Path.parse dir.toList
    | none => home.append { parts := [".config".toList] }
  let here := (Path.parse (← IO.currentDir).toString.toList).parts
  let files : Files := { here, homes := [([], home)], configHome }
  return (files.makeDirectories [] here).1

/-- The files that the arguments name, and the source file that the settings name. -/
def gatherFiles (a : Arguments) : IO Files := do
  let files ← homeFiles
  let files ← fetch files (settingsPath files a)
  let files ← match sourceFile? files a with
    | some p => fetch files p
    | none => pure files
  match a.expand with
  | some name => if name = ['-'] then return files else fetch files (Path.parse name)
  | none => return files

/-- Whether an entry is shown: debugging entries only when the user asks for more. -/
def isShown (a : Arguments) (e : Log.Entry) : Bool := a.verbose || e.level != .debug

/-- A line for the user. -/
def tellUser (words : Text) : IO Unit := do
  (← IO.getStderr).putStrLn (String.ofList words)

/-- The arguments that were accepted, or none. -/
def accepted (arguments : List Text) : Arguments := ((parse arguments).toOption).getD {}

/-- The command, on the arguments, files and input of the system. -/
def program (arguments : List Text) : IO UInt32 := do
  let a := accepted arguments
  let files ← gatherFiles a
  let stdin ← if a.expand = some ['-'] then (← IO.getStdin).readToEnd else pure ""
  let s : Session := { files, host := { document := .new [] none } }
  match (run arguments stdin.toList).run.run s with
  | none => return 1
  | some (result, s) =>
    for e in s.host.log.filter (isShown a) do
      tellUser e.message
    match result with
    | .ok answer =>
      (← IO.getStdout).putStr (String.ofList answer.output)
      for words in answer.rejection.toList do
        tellUser words
      return UInt32.ofNat answer.code
    | .error f =>
      tellUser (f.message?.getD "failed".toList)
      return 1

end Shorthand.CommandLine

/-- The entry point. -/
def main (arguments : List String) : IO UInt32 :=
  Shorthand.CommandLine.program (arguments.map String.toList)
