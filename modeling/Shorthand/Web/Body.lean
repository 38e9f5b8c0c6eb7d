import Shorthand.Json.Tree

set_option autoImplicit false
set_option relaxedAutoImplicit false

/-!
# The body of an expand request

An expand request is a JSON object. Its fields are read leniently: a number may be written as a
text, a truth value as a number or a word. Every field that cannot be read is reported, in the
order of the fields.

## Main definitions

* `Shorthand.Web.Issue` — why a body or a field was refused.
* `Shorthand.Web.Finding` — an issue with its place and with what was refused.
* `Shorthand.Web.textToInt` — the integer that a text is read as.
* `Shorthand.Web.ExpandRequest` — what a body asks for.
* `Shorthand.Web.ExpandRequest.ofTree` — the request of a body, or all findings about it.
-/

namespace Shorthand.Web

/-- Why a body or a field was refused. -/
inductive Issue where
  | missing
  | jsonInvalid
  | modelAttributesType
  | stringType
  | intType
  | intParsing
  | intParsingSize
  | intFromFloat
  | finiteNumber
  | boolType
  | boolParsing
  deriving DecidableEq, Repr

/-- The name of an issue. -/
def Issue.name : Issue → Text
  | .missing => "missing".toList
  | .jsonInvalid => "json_invalid".toList
  | .modelAttributesType => "model_attributes_type".toList
  | .stringType => "string_type".toList
  | .intType => "int_type".toList
  | .intParsing => "int_parsing".toList
  | .intParsingSize => "int_parsing_size".toList
  | .intFromFloat => "int_from_float".toList
  | .finiteNumber => "finite_number".toList
  | .boolType => "bool_type".toList
  | .boolParsing => "bool_parsing".toList

/-! ## Integers -/

/-- The floats that are read as integers are below this, which is `2 ^ 63`, and above its
negation. -/
def floatBound : Int := 9223372036854775808

/-- The integer that a float is. -/
def floatToInt (x : Binary64) : Except Issue Int :=
  match x with
  | .finite _ _ _ => match x.toInt? with
    | some n => if -floatBound < n && n < floatBound then .ok n else .error .intParsingSize
    | none => .error .intFromFloat
  | _ => .error .finiteNumber

/-- The text from its first digit that is no zero, or from its minus sign. Underscores among the
zeros go with them; a zero stays before a point, and the last character when there is nothing
else. -/
def stripZeros (s : Text) : Option Text :=
  match s with
  | '0' :: rest =>
    match rest.dropWhile fun c => c == '0' || c == '_' with
    | [] => some (s.drop (s.length - 1))
    | '.' :: more => some (s.drop (s.length - (more.length + 2)))
    | c :: more => if c.isDigit || c == '-' then some (c :: more) else none
  | c :: _ => if c.isDigit || c == '-' then some s else none
  | [] => none

/-- The text before a point that zeros follow, and only zeros. -/
def stripFraction (s : Text) : Text :=
  match Text.cut ['.'] s with
  | some (whole, part) => if !part.isEmpty && part.all (· == '0') then whole else s
  | none => s

/-- The text without underscores, when they stand single and between other characters. -/
def stripUnderscores (s : Text) : Text :=
  if s.head? = some '_' || s.getLast? = some '_' || (Text.cut "__".toList s).isSome then s
  else s.filter (· != '_')

/-- A text that follows a sign without what it may have around its digits: leading zeros, a
fraction of zeros, underscores. -/
def cleanDigits (s : Text) : Option Text :=
  (stripZeros s).map fun t => stripUnderscores (stripFraction t)

/-- The text of an integer without what it may have around its digits but a minus sign. A plus
sign goes too, unless a minus sign follows it. -/
def cleanInteger (s : Text) : Option Text :=
  match s with
  | '-' :: rest => (cleanDigits rest).map ('-' :: ·)
  | '+' :: '-' :: _ => none
  | '+' :: rest => cleanDigits rest
  | rest => cleanDigits rest

/-- The integer of a text without anything to clean: digits without leading zeros, with a minus
sign when it is negative. Digits are counted up to the first character that is none, whatever that
is. -/
def plainInteger (s : Text) : Except Issue Int :=
  let (negative, body) := match s with
    | '-' :: rest => (true, rest)
    | rest => (false, rest)
  let (digits, rest) := Json.digits body
  if digits.isEmpty || (digits.head? = some '0' && 1 < digits.length) then .error .intParsing
  else if Text.maxDigits < digits.length then .error .intParsingSize
  else if !rest.isEmpty then .error .intParsing
  else
    let n : Int := Json.digitsValue digits
    .ok (if negative then -n else n)

/-- The integer that a text is read as: it may have blanks around it, a sign, leading zeros, single
underscores, and a fraction of zeros. Only a text without them is told to be too long. -/
def textToInt (s : Text) : Except Issue Int :=
  match plainInteger s with
  | .error .intParsing =>
    match (cleanInteger (Text.trimBoth Text.isWhiteSpace s)).map plainInteger with
    | some (.ok n) => .ok n
    | _ => .error .intParsing
  | plain => plain

/-- The integer that a field is read as. -/
def toInt : Json.Tree → Except Issue Int
  | .int n => .ok n
  | .bool b => .ok (if b then 1 else 0)
  | .float x => floatToInt x
  | .string s => match s.toText? with
    | some t => textToInt t
    | none => .error .intParsing
  | _ => .error .intType

/-! ## Texts and truth values -/

/-- The string that a field is. -/
def toPoints : Json.Tree → Except Issue Points
  | .string s => .ok s
  | _ => .error .stringType

/-- The words for true. -/
def trueWords : List Text := ["1", "t", "y", "yes", "on", "true"].map String.toList

/-- The words for false. -/
def falseWords : List Text := ["0", "f", "n", "no", "off", "false"].map String.toList

/-- The truth value of zero and one. -/
def intToBool (n : Int) : Except Issue Bool :=
  if n = 0 then .ok false else if n = 1 then .ok true else .error .boolParsing

/-- The truth value of a word, in capitals or not. -/
def wordToBool (s : Text) : Except Issue Bool :=
  let word := s.map Char.toLower
  if trueWords.contains word then .ok true
  else if falseWords.contains word then .ok false
  else .error .boolParsing

/-- The truth value that a field is read as. -/
def toBool : Json.Tree → Except Issue Bool
  | .bool b => .ok b
  | .string s => match s.toText? with
    | some t => wordToBool t
    | none => .error .boolParsing
  | .int n =>
    if -floatBound ≤ n && n < floatBound then intToBool n else .error .boolType
  | .float x => match floatToInt x with
    | .ok n => intToBool n
    | .error _ => .error .boolType
  | _ => .error .boolType

/-! ## Requests -/

/-- What a body asks for. -/
structure ExpandRequest where
  text : Points
  /-- The offset of the cursor; the end of the text when there is none. -/
  cursor : Option Int := none
  /-- The key to press; the explicit command when there is none. -/
  key : Option Points := none
  shift : Bool := false
  deriving DecidableEq, Repr

/-- An issue with its place and with what was refused: a field, or the body. -/
structure Finding where
  issue : Issue
  /-- The field; none for the body. -/
  field : Option Text
  refused : Json.Tree

/-- What a member of a body is read as. A member that is not there is missing; the body is refused
for it. -/
def readField {α : Type} (body : Json.Tree) (name : Text) (default : Option α)
    (read : Json.Tree → Except Issue α) : Except Finding α :=
  match body.member? name, default with
  | some t, _ => (read t).mapError fun i => ⟨i, some name, t⟩
  | none, some a => .ok a
  | none, none => .error ⟨.missing, some name, body⟩

/-- What a member that may be null is read as. -/
def orNull {α : Type} (read : Json.Tree → Except Issue α) : Json.Tree → Except Issue (Option α)
  | .null => .ok none
  | t => (read t).map some

/-- The finding of a field, if it has one. -/
def findingOf {α : Type} : Except Finding α → List Finding
  | .ok _ => []
  | .error f => [f]

/-- The request of an object, or all findings about its members. -/
def ExpandRequest.ofObject (body : Json.Tree) : Except (List Finding) ExpandRequest :=
  let text := readField body "text".toList none toPoints
  let cursor := readField body "cursor".toList (some none) (orNull toInt)
  let key := readField body "key".toList (some none) (orNull toPoints)
  let shift := readField body "shift".toList (some false) toBool
  match text, cursor, key, shift with
  | .ok text, .ok cursor, .ok key, .ok shift => .ok { text, cursor, key, shift }
  | _, _, _, _ =>
    .error (findingOf text ++ findingOf cursor ++ findingOf key ++ findingOf shift)

/-- The request of a body, or all findings about it. There may be no body at all. -/
def ExpandRequest.ofTree : Option Json.Tree → Except (List Finding) ExpandRequest
  | none => .error [⟨.missing, none, .null⟩]
  | some (.object members) => ofObject (.object members)
  | some t => .error [⟨.modelAttributesType, none, t⟩]

end Shorthand.Web
