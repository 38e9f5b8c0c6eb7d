import Shorthand.Text.Integer
import Shorthand.Text.Quoted
import Shorthand.Trigger.Channel
import Shorthand.Version

set_option autoImplicit false
set_option relaxedAutoImplicit false

/-!
# Arguments of the command line

Arguments are options, the arguments of options, or neither. A long option may be cut short as
long as no other starts the same way, and may carry its argument after an equals sign; options of
one letter may be written together. What is neither is refused, but only when all options have had
their turn.

## Main definitions

* `Shorthand.CommandLine.Switch` — the options.
* `Shorthand.CommandLine.classify` — what an argument is.
* `Shorthand.CommandLine.Arguments` — what the options ask for.
* `Shorthand.CommandLine.parse` — the arguments, or why the program stops.
-/

namespace Shorthand.CommandLine

/-! ## Options -/

/-- The options. -/
inductive Switch where
  | help
  | verbose
  | version
  | config
  | listSnippets
  | expand
  | cursor
  | key
  | serve
  deriving DecidableEq, Repr

/-- How the options are spelled, in the order in which they are searched. -/
def spellings : List (Text × Switch) :=
  [("-h".toList, .help), ("--help".toList, .help), ("-v".toList, .verbose),
    ("--verbose".toList, .verbose), ("--version".toList, .version), ("--config".toList, .config),
    ("--list-snippets".toList, .listSnippets), ("--expand".toList, .expand),
    ("--cursor".toList, .cursor), ("--key".toList, .key), ("--serve".toList, .serve)]

namespace Switch

/-- Whether an option takes an argument. -/
def takesArgument : Switch → Bool
  | .config | .expand | .cursor | .key => true
  | _ => false

/-- An option as messages name it: by all its spellings. -/
def title (s : Switch) : Text :=
  Text.join ['/'] ((spellings.filter fun (_, t) => t == s).map (·.1))

/-- The option that a text spells. -/
def ofSpelling? (spelling : Text) : Option Switch := Entries.find? spellings spelling

end Switch

/-- Why arguments are refused. -/
inductive Fault where
  | ambiguous (argument : Text) (candidates : List Text)
  | expectedArgument (s : Switch)
  | ignoredArgument (s : Switch) (argument : Text)
  | invalidInteger (s : Switch) (argument : Text)
  | invalidChoice (s : Switch) (argument : Text) (choices : List Text)
  | unrecognized (arguments : List Text)
  deriving DecidableEq, Repr

/-- A fault in words. -/
def Fault.message : Fault → Text
  | .ambiguous argument candidates =>
    "ambiguous option: ".toList ++ argument ++ " could match ".toList ++
      Text.join ", ".toList candidates
  | .expectedArgument s => ofSwitch s "expected one argument".toList
  | .ignoredArgument s argument =>
    ofSwitch s ("ignored explicit argument ".toList ++ Text.quoted argument)
  | .invalidInteger s argument => ofSwitch s ("invalid int value: ".toList ++ Text.quoted argument)
  | .invalidChoice s argument choices =>
    ofSwitch s ("invalid choice: ".toList ++ Text.quoted argument ++ " (choose from ".toList ++
      Text.join ", ".toList (choices.map Text.quoted) ++ [')'])
  | .unrecognized arguments => "unrecognized arguments: ".toList ++ Text.join [' '] arguments
where
  ofSwitch (s : Switch) (problem : Text) : Text :=
    "argument ".toList ++ s.title ++ ": ".toList ++ problem

/-- The last line that the command prints when it refuses its arguments. -/
def Fault.report (f : Fault) : Text :=
  Text.lastLine (Text.trim (programName ++ ": error: ".toList ++ f.message))

/-! ## What an argument is -/

/-- What an argument is. -/
inductive Token where
  /-- No option: the argument of one, or nothing. -/
  | value
  /-- The mark after which there are no options. -/
  | mark
  /-- It looks like an option but is none. -/
  | unknown
  /-- An option, spelled with a word or with a letter, and what is attached to it: what follows an
  equals sign, or the letter. -/
  | switch (s : Switch) (word : Bool) (attached : Option Text)
  deriving DecidableEq, Repr

/-- The name of a long option and the argument after its equals sign. -/
def splitAttached (argument : Text) : Text × Option Text :=
  match Text.cut ['='] argument with
  | some (name, attached) => (name, some attached)
  | none => (argument, none)

/-- Whether a spelling is a long one. -/
def isLong (spelling : Text) : Bool := "--".toList.isPrefixOf spelling

/-- The options that an argument may mean when it spells none: those that it starts, for two dashes;
the one of its letter, with the rest attached, for one. -/
def candidates (argument : Text) : List (Text × Token) :=
  if isLong argument then
    let (name, attached) := splitAttached argument
    (spellings.filter fun (spelling, _) => name.isPrefixOf spelling).map fun (spelling, s) =>
      (spelling, .switch s true attached)
  else
    spellings.filterMap fun (spelling, s) =>
      if spelling = argument.take 2 then
        some (spelling, .switch s false (some (argument.drop 2)))
      else if argument.isPrefixOf spelling then some (spelling, .switch s (isLong spelling) none)
      else none

/-- The digits of a text, and nothing else. -/
def isDigits (s : Text) : Bool := s.all fun c => (Text.digit? c).isSome

/-- A minus sign and a number: digits, or digits after a point with or without some before it. A
line break may follow. -/
def isNegativeNumber (argument : Text) : Bool :=
  match argument with
  | '-' :: rest =>
    let body := if rest.getLast? = some '\n' then rest.dropLast else rest
    match Text.cut ['.'] body with
    | none => isDigits body && !body.isEmpty
    | some (whole, part) => isDigits whole && isDigits part && !part.isEmpty
  | _ => false

/-- What an argument before the mark is. -/
def classify (argument : Text) : Except Fault Token :=
  if argument.head? ≠ some '-' || argument.length = 1 then .ok .value
  else if argument = "--".toList then .ok .mark
  else match Switch.ofSpelling? argument with
    | some s => .ok (.switch s (isLong argument) none)
    | none =>
      let (name, attached) := splitAttached argument
      match attached.bind fun _ => Switch.ofSpelling? name with
      | some s => .ok (.switch s (isLong name) attached)
      | none =>
        match candidates argument with
        | [(_, token)] => .ok token
        | [] =>
          if isNegativeNumber argument || argument.contains ' ' then .ok .value else .ok .unknown
        | several => .error (.ambiguous argument (several.map (·.1)))

/-- What the arguments are, one by one: after the mark all are values. -/
def classifyAll : List Text → Except Fault (List (Text × Token))
  | [] => .ok []
  | argument :: rest =>
    match classify argument with
    | .error f => .error f
    | .ok .mark => .ok ((argument, .mark) :: rest.map fun a => (a, .value))
    | .ok token => (classifyAll rest).map ((argument, token) :: ·)

/-! ## What the options ask for -/

/-- What the options ask for. -/
structure Arguments where
  verbose : Bool := false
  config : Option Text := none
  listSnippets : Bool := false
  expand : Option Text := none
  cursor : Option Int := none
  /-- The key to press, or none for the explicit command. -/
  key : Option Key := none
  serve : Bool := false
  /-- The options that were given without anything that could be their argument. -/
  lost : List Switch := []
  deriving DecidableEq, Repr

/-- Why the program stops before it starts. -/
inductive Stop where
  | help
  | version
  | rejected (f : Fault)
  deriving DecidableEq, Repr

/-- What the key option takes. -/
def keyChoices : List (Text × Option Key) :=
  [(Key.space.name, some .space), (Key.tab.name, some .tab), (Key.enter.name, some .enter),
    ("none".toList, none)]

/-- The arguments with an option without argument. -/
def Arguments.turnOn (a : Arguments) : Switch → Except Stop Arguments
  | .help => .error .help
  | .version => .error .version
  | .verbose => .ok { a with verbose := true }
  | .listSnippets => .ok { a with listSnippets := true }
  | .serve => .ok { a with serve := true }
  | _ => .ok a

/-- The arguments with options without argument, one after the other. -/
def Arguments.turnOnAll (a : Arguments) : List Switch → Except Stop Arguments
  | [] => .ok a
  | s :: rest => do (← a.turnOn s).turnOnAll rest

/-- The arguments with an option that is given without an argument. A file of settings that is
given so is not given at all. -/
def Arguments.lose (a : Arguments) (s : Switch) : Arguments :=
  match s with
  | .config => { a with config := none }
  | s => { a with lost := s :: a.lost }

/-- The arguments with an option and its argument. -/
def Arguments.give (a : Arguments) (s : Switch) (argument : Text) : Except Stop Arguments :=
  let a := { a with lost := a.lost.filter (· != s) }
  match s with
  | .config => .ok { a with config := some argument }
  | .expand => .ok { a with expand := some argument }
  | .cursor => match Text.toInt? argument with
    | some n => .ok { a with cursor := some n }
    | none => .error (.rejected (.invalidInteger s argument))
  | .key => match Entries.find? keyChoices argument with
    | some k => .ok { a with key := k }
    | none => .error (.rejected (.invalidChoice s argument (keyChoices.map (·.1))))
  | _ => .ok a

/-- The options of a group of letters: that of the first, and those of the letters attached to it.
No option of one letter takes an argument, so every letter has to be an option. -/
def group (s : Switch) : Text → Except Fault (List Switch)
  | [] => .ok [s]
  | c :: rest =>
    match Switch.ofSpelling? ['-', c] with
    | some next => (group next rest).map (s :: ·)
    | none => .error (.ignoredArgument s (c :: rest))

/-- The arguments with an option and what is attached to it. The mark is no argument, attached or
not. -/
def Arguments.attach (a : Arguments) (s : Switch) (word : Bool) (attached : Text) :
    Except Stop Arguments :=
  if s.takesArgument then
    if attached = "--".toList then .ok (a.lose s) else a.give s attached
  else if word || attached.isEmpty then .error (.rejected (.ignoredArgument s attached))
  else match group s attached with
    | .error f => .error (.rejected f)
    | .ok switches => a.turnOnAll switches

/-- The options take their turn, from the left. What is left over comes with them. -/
def consume : Arguments → List Text → List (Text × Token) → Except Stop (Arguments × List Text)
  | a, extras, [] => .ok (a, extras)
  | a, extras, (_, .switch s word (some attached)) :: rest => do
    consume (← a.attach s word attached) extras rest
  | a, extras, (_, .switch s _ none) :: rest =>
    if s.takesArgument then
      match rest with
      | (argument, .value) :: rest => do consume (← a.give s argument) extras rest
      | _ => .error (.rejected (.expectedArgument s))
    else do consume (← a.turnOn s) extras rest
  | a, extras, (argument, _) :: rest => consume a (extras ++ [argument]) rest

/-- What the arguments ask for. -/
def parse (arguments : List Text) : Except Stop Arguments :=
  match classifyAll arguments with
  | .error f => .error (.rejected f)
  | .ok tokens =>
    match consume {} [] tokens with
    | .error stop => .error stop
    | .ok (a, []) => .ok a
    | .ok (_, extras) => .error (.rejected (.unrecognized extras))

end Shorthand.CommandLine
