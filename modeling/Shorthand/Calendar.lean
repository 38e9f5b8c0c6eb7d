import Shorthand.Text.Basic

set_option autoImplicit false
set_option relaxedAutoImplicit false

/-!
# Dates and times

The moments that a configuration file can hold: a date, a time of day, or both together, then with
or without an offset from universal time.

## Main definitions

* `Shorthand.Date`, `Shorthand.Time`, `Shorthand.Moment` — the types.
* `Shorthand.Date.isValid` — the day exists in its month, and the year is at least 1.
* `Shorthand.Moment.toText` — the ISO 8601 text, with a chosen separator.
* `Shorthand.Moment.literal` — the constructor call that messages show.
-/

namespace Shorthand

/-- A day of the calendar. -/
structure Date where
  year : Nat
  month : Nat
  day : Nat
  deriving DecidableEq, Repr

/-- A time of day, to the microsecond. -/
structure Time where
  hour : Nat
  minute : Nat
  second : Nat
  micro : Nat
  deriving DecidableEq, Repr

/-- A date, a time, or both with an offset from universal time in minutes, if one is known. -/
inductive Moment where
  | date (d : Date)
  | time (t : Time)
  | dateTime (d : Date) (t : Time) (offset : Option Int)
  deriving DecidableEq, Repr

namespace Date

/-- A year divisible by four is a leap year, a century only if it is divisible by 400. -/
def isLeap (year : Nat) : Bool := year % 4 == 0 && (year % 100 != 0 || year % 400 == 0)

/-- The number of days of a month. -/
def daysIn (year month : Nat) : Nat :=
  if month = 2 then if isLeap year then 29 else 28
  else if month = 4 || month = 6 || month = 9 || month = 11 then 30 else 31

/-- The day exists, in a year that is at least 1. -/
def isValid (d : Date) : Bool :=
  1 ≤ d.year && 1 ≤ d.month && d.month ≤ 12 && 1 ≤ d.day && d.day ≤ daysIn d.year d.month

/-- `YYYY-MM-DD`. -/
def toText (d : Date) : Text :=
  Text.padLeft 4 '0' (Text.ofNat d.year) ++ '-' :: Text.padLeft 2 '0' (Text.ofNat d.month) ++
    '-' :: Text.padLeft 2 '0' (Text.ofNat d.day)

end Date

namespace Time

/-- `HH:MM:SS`, with six digits of a fraction when there is one. -/
def toText (t : Time) : Text :=
  let two (n : Nat) := Text.padLeft 2 '0' (Text.ofNat n)
  two t.hour ++ ':' :: two t.minute ++ ':' :: two t.second ++
    if t.micro = 0 then [] else '.' :: Text.padLeft 6 '0' (Text.ofNat t.micro)

end Time

namespace Moment

/-- An offset as `+HH:MM` or `-HH:MM`. -/
def offsetText (minutes : Int) : Text :=
  let two (n : Nat) := Text.padLeft 2 '0' (Text.ofNat n)
  let n := minutes.natAbs
  (if minutes < 0 then '-' else '+') :: two (n / 60) ++ ':' :: two (n % 60)

/-- The ISO 8601 text, with `separator` between a date and its time. -/
def toText (separator : Char) : Moment → Text
  | .date d => d.toText
  | .time t => t.toText
  | .dateTime d t offset =>
    d.toText ++ separator :: t.toText ++ (offset.map offsetText).getD []

/-- The fields of a time that a message shows: hour and minute always, the second unless it and the
fraction are zero, the fraction unless it is zero. -/
def timeFields (t : Time) : List Nat :=
  [t.hour, t.minute] ++
    if t.micro ≠ 0 then [t.second, t.micro] else if t.second ≠ 0 then [t.second] else []

/-- An offset as messages show it: whole days are counted apart, so that the seconds are never
negative. -/
def offsetLiteral (minutes : Int) : Text :=
  let day : Int := 24 * 60
  let days := minutes.fdiv day
  let seconds := minutes.fmod day * 60
  if minutes = 0 then "datetime.timezone.utc".toList
  else "datetime.timezone(datetime.timedelta(".toList ++
    (if days = 0 then [] else "days=".toList ++ Text.ofInt days ++
      (if seconds = 0 then [] else ", ".toList)) ++
    (if seconds = 0 then [] else "seconds=".toList ++ Text.ofInt seconds) ++ "))".toList

/-- The constructor call that messages show for a moment. -/
def literal : Moment → Text
  | .date d => "datetime.date(".toList ++ fields [d.year, d.month, d.day] ++ [')']
  | .time t => "datetime.time(".toList ++ fields (timeFields t) ++ [')']
  | .dateTime d t offset =>
    "datetime.datetime(".toList ++ fields ([d.year, d.month, d.day] ++ timeFields t) ++
      (match offset with
        | none => []
        | some minutes => ", tzinfo=".toList ++ offsetLiteral minutes) ++ [')']
where
  fields (ns : List Nat) : Text := Text.join ", ".toList (ns.map Text.ofNat)

end Moment

end Shorthand
