import Shorthand.Files
import Shorthand.Text.Integer

set_option autoImplicit false
set_option relaxedAutoImplicit false

/-!
# Failures

Why an operation did not come to its end. Most have a message; where none is given, the words are
not ours to choose.

## Main definitions

* `Shorthand.Failure` — the causes.
* `Shorthand.Failure.message?` — their words.
-/

namespace Shorthand

/-- Why an operation did not come to its end. -/
inductive Failure where
  /-- A divider is the empty text. -/
  | emptyDivider
  /-- A divider is no text. -/
  | dividerNotText
  /-- A divider that stands for blanks cannot be put back between parts. -/
  | dividerCannotJoin
  /-- The snippet source is no text. -/
  | sourceNotText
  /-- The name of the source file is neither a text nor empty. -/
  | fileNameNotText
  /-- The settings have a value where the reading of the source should be. -/
  | sourceReaderReplaced
  /-- The settings have a value where the key of the table should be. -/
  | tableKeyReplaced
  /-- A file name has a NUL character. -/
  | nulInFileName
  /-- A file name starts in the directory of a user that does not exist. -/
  | unknownHome
  /-- A file is no text. -/
  | fileNotText
  /-- A file cannot be reached. -/
  | file (fault : FileFault)
  /-- The host refused a call. -/
  | refused
  /-- A section of the settings has no such field. -/
  | unknownField
  /-- The settings have a value where the fields of a section should be listed. -/
  | fieldsReplaced
  /-- A value that is no table stands where the entries of a section should be. -/
  | entriesNotTable
  /-- The kind of a section was to be changed. -/
  | kindFixed
  /-- The references to a section were to be changed. -/
  | referencesFixed
  /-- The settings have no such section. -/
  | noSuchSection
  /-- A value is no table where one is wanted. -/
  | notTable
  /-- An event cannot be emitted with such arguments. -/
  | eventArguments
  /-- An option of the command line was given without anything that could be its argument. -/
  | lostArgument
  /-- The port to serve at is not a number. -/
  | portNotNumber
  /-- The port to serve at is infinite. -/
  | portInfinite
  /-- The port to serve at is not-a-number. -/
  | portNaN
  /-- A number has too many digits to be written. -/
  | numberTooLong
  /-- A refused body is shown in an answer, and holds a number that is infinite or not-a-number. -/
  | nonFiniteShown
  /-- A refused body is shown in an answer, and a surrogate stands alone in it. -/
  | surrogateShown
  /-- A text to answer with has `count` lone surrogates in a row at `position`. -/
  | surrogatesInText (first position count : Nat)
  deriving DecidableEq, Repr

/-- The words of a failure. -/
def Failure.message? : Failure → Option Text
  | .emptyDivider => some "empty separator".toList
  | .nulInFileName => some "embedded null byte".toList
  | .unknownHome => some "Could not determine home directory.".toList
  | .refused => some "boom".toList
  | .portInfinite => some "cannot convert float infinity to integer".toList
  | .portNaN => some "cannot convert float NaN to integer".toList
  | .numberTooLong =>
    some ("Exceeds the limit (".toList ++ Text.ofNat Text.maxDigits ++
      " digits) for integer string conversion; ".toList ++
        "use sys.set_int_max_str_digits() to increase the limit".toList)
  | .nonFiniteShown => some "Out of range float values are not JSON compliant".toList
  | .surrogatesInText first position count =>
    some ("Error serializing to JSON: UnicodeEncodeError: 'utf-8' codec can't encode ".toList ++
      (if count = 1 then
        "character '\\u".toList ++ Text.hex 4 first ++ "' in position ".toList ++
          Text.ofNat position
      else
        "characters in position ".toList ++ Text.ofNat position ++ '-' ::
          Text.ofNat (position + count - 1)) ++ ": surrogates not allowed".toList)
  | _ => none

end Shorthand
