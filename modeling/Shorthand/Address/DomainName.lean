import Shorthand.Address.Punycode
import Shorthand.Address.Scripts

set_option autoImplicit false
set_option relaxedAutoImplicit false

/-!
# Domain names

A domain name is a sequence of labels with dots between them; the dots of Chinese and Japanese texts
are dots too. A label is written with letters, digits, marks and hyphens, does not mix directions of
writing, and is sent in ASCII.

## Main definitions

* `Shorthand.Address.isAllowed` — whether a character may stand where it does.
* `Shorthand.Address.keepsDirection` — whether a label mixes no directions of writing.
* `Shorthand.Address.isLabel` — what is a label.
* `Shorthand.Address.sentLabel?` — a label as it is sent.
* `Shorthand.Address.isDomainName` — what is a domain name.
-/

namespace Shorthand.Address

/-! ## Labels -/

/-- Whether the nonspacing marks at the start of a text are followed by a character of a class. -/
def afterMarks (p : Char → Bool) (s : Text) : Bool := (s.dropWhile isNonspacingMark).head?.any p

/-- Whether a character may stand in a label, between what comes `before` it, the nearest first, and
what comes `after` it. Most may stand anywhere. -/
def isAllowed (label before : Text) (c : Char) (after : Text) : Bool :=
  if c = '\u200c' then
    before.head?.any isVirama || (afterMarks joinsNext before && afterMarks joinsPrevious after)
  else if c = '\u200d' then before.head?.any isVirama
  else if c = '\u00b7' then before.head? = some 'l' && after.head? = some 'l'
  else if c = '\u0375' then after.head?.any isGreek
  else if c = '\u05f3' || c = '\u05f4' then before.head?.any isHebrew
  else if c = '\u30fb' then label.any isEastAsian
  else if isArabicDigit c then !label.any isEasternArabicDigit
  else if isEasternArabicDigit c then !label.any isArabicDigit
  else isLetter c

/-- Whether all characters of a label from some place on may stand where they do. -/
def allAllowed (label before : Text) : Text → Bool
  | [] => true
  | c :: after => isAllowed label before c after && allAllowed label (c :: before) after

/-- Whether a label mixes no directions of writing. One with anything that runs from right to left
starts with a letter that does, holds none that does not, ends with such a letter or a digit, marks
apart, and has digits of one kind. -/
def keepsDirection (label : Text) : Bool :=
  let directions := label.map direction
  let ending := (directions.reverse.dropWhile (· = .mark)).head?
  !(directions.contains .rightToLeft || directions.contains .arabicNumber) ||
    directions.head? = some .rightToLeft && !directions.contains .leftToRight &&
      ending.any [Direction.rightToLeft, .arabicNumber, .europeanNumber].contains &&
      !(directions.contains .arabicNumber && directions.contains .europeanNumber)

/-- The longest text in which labels are looked for, in characters. -/
def maxNameLength : Nat := 254

/-- Whether a text is a label. Hyphens are neither at its ends, nor third and fourth. -/
def isLabel (s : Text) : Bool :=
  !s.isEmpty && s.length ≤ maxNameLength && isComposed s &&
    (s.drop 2).take 2 ≠ "--".toList && s.head? ≠ some '-' && s.getLast? ≠ some '-' &&
    !s.head?.any isMark && allAllowed s [] s && keepsDirection s

/-- What the labels start with that were not written in ASCII. -/
def encodedMark : Text := "xn--".toList

/-- The longest label, as it is sent. -/
def maxLabelLength : Nat := 63

/-- Whether a text of ASCII is a label, or stands for one. -/
def isSentLabel (s : Text) : Bool :=
  if encodedMark.isPrefixOf s then
    s.getLast? ≠ some '-' && (Punycode.decode? (s.drop encodedMark.length)).any isLabel
  else isLabel s

/-- A label as it is sent. -/
def sentLabel? (s : Text) : Option Text :=
  let sent := if s.all (·.toNat < 0x80) then s else encodedMark ++ Punycode.encode s
  let valid := if s.all (·.toNat < 0x80) then isSentLabel s else isLabel s
  if valid && sent.length ≤ maxLabelLength then some sent else none

/-! ## Names -/

/-- The dots between labels. -/
def isDot (c : Char) : Bool := ['.', '\u3002', '\uff0e', '\uff61'].contains c

/-- Whether a text is a domain name. A dot may follow its last label. -/
def isDomainName (s : Text) : Bool :=
  let s := lowerCase s
  let labels := s.splitOnP isDot
  let labels := if labels.getLast? = some [] then labels.dropLast else labels
  s.length ≤ maxNameLength &&
    (labels.mapM sentLabel?).any fun sent => (Text.join ['.'] sent).length < maxNameLength

end Shorthand.Address
