/-
  Dates of YAML, with or without a time of day and a zone.

  A plain text LOOKS like a date if it has year, month and day in four, two and two digits, or a
  time of day behind them.  A text that a tag declares to be a date may be shorter: one digit is
  enough for the month and the day even without a time.  What has the form of a date must also be
  one: its zone is less than a day ahead or behind, and its parts are in their ranges, checked from
  the year on.

  Documents have no dates, so a date is kept as the text that writes it in full.
-/
import Muster.Document.Fault
import Muster.Text.Pattern

namespace Muster.Document.Yaml

open Text

/-! ## Patterns -/

/-- A digit. -/
def digit : Pattern := .one isAsciiDigit

/-- Two digits. -/
def twoDigits : Pattern := digit ++ digit

/-- One digit or two. -/
def oneOrTwoDigits : Pattern := digit ++ .opt digit

/-- A blank between a date, a time and a zone. -/
def isDateBlank (c : Char) : Bool := c == ' ' || c == '\t'

/-- A sign before the hours of a zone. -/
def isZoneSign (c : Char) : Bool := c == '+' || c == '-'

/-- A year, and the dash behind it. -/
def yearPattern : Pattern := .group 1 (digit ++ digit ++ digit ++ digit) ++ .char '-'

/-- A date in full, without a time. -/
def dayPattern : Pattern :=
  yearPattern ++ .group 2 twoDigits ++ .char '-' ++ .group 3 twoDigits

/-- A date whose month and day may be short. -/
def shortDayPattern : Pattern :=
  yearPattern ++ .group 2 oneOrTwoDigits ++ .char '-' ++ .group 3 oneOrTwoDigits

/-- A time of day behind a date, perhaps with a zone. -/
def timePattern : Pattern :=
  (.char 't' <|> .longest isDateBlank) ++ .group 4 oneOrTwoDigits
    ++ .char ':' ++ .group 5 twoDigits ++ .char ':' ++ .group 6 twoDigits
    ++ .opt (.char '.' ++ .group 7 (.many isAsciiDigit true))
    ++ .opt (.many isDateBlank true ++ (.group 8 (.one (· == 'Z'))
      <|> .group 9 (.one isZoneSign) ++ .group 10 oneOrTwoDigits
        ++ .opt (.char ':' ++ .group 11 twoDigits)))

/-- Whether a plain text looks like a date. -/
def looksDate (s : List Char) : Bool :=
  ((dayPattern ++ .textEnd).matchStart s).isSome
    || ((shortDayPattern ++ timePattern ++ .textEnd).matchStart s).isSome

/-! ## Ranges -/

/-- Whether a year has 366 days. -/
def isLeap (year : Nat) : Bool := year % 4 == 0 && (year % 100 != 0 || year % 400 == 0)

/-- The number of days of a month. -/
def daysIn (year month : Nat) : Nat :=
  if month == 2 then if isLeap year then 29 else 28
  else if [4, 6, 9, 11].contains month then 30
  else 31

/-- A time of day. -/
structure Clock where
  hour : Nat
  minute : Nat
  second : Nat
  /-- Millionths of a second. -/
  micro : Nat
  /-- The zone, if it is given, in minutes ahead. -/
  zone : Option Int

/-- A date, perhaps with a time of day. -/
structure Stamp where
  year : Nat
  month : Nat
  day : Nat
  clock : Option Clock

/-- The first part that is out of its range. -/
def Stamp.wrongPart? (t : Stamp) : Option DatePart :=
  let hour := (t.clock.map Clock.hour).getD 0
  let minute := (t.clock.map Clock.minute).getD 0
  let second := (t.clock.map Clock.second).getD 0
  if t.year == 0 then some .year
  else if t.month == 0 || t.month > 12 then some .month
  else if t.day == 0 || t.day > daysIn t.year t.month then some .day
  else if hour > 23 then some .hour
  else if minute > 59 then some .minute
  else if second > 59 then some .second
  else none

/-- Whether a zone is less than a day ahead or behind. -/
def isZone (minutes : Int) : Bool := minutes.natAbs < 1440

/-- The date itself, if there is such a day and time. -/
def Stamp.check (t : Stamp) : Except Fault Stamp :=
  let zone := (t.clock.bind Clock.zone).getD 0
  if !isZone zone then .error (.noSuchZone zone)
  else match t.wrongPart? with
    | some p => .error (.noSuchDate p)
    | none => .ok t

/-! ## Reading -/

/-- The zone of a match, in minutes ahead. -/
def zoneOf (m : Pattern.Match) : Option Int :=
  if !(m.group 8).isEmpty then some 0
  else
    let offset : Int := 60 * decimalValue (m.group 10) + decimalValue (m.group 11)
    match m.group 9 with
    | ['+'] => some offset
    | ['-'] => some (-offset)
    | _ => none

/-- Millionths from the digits behind a point, of which six count. -/
def microOf (ds : List Char) : Nat :=
  decimalValue (ds.take 6 ++ List.replicate (6 - ds.length) '0')

/-- The time of day of a match, if there is one. -/
def clockOf (m : Pattern.Match) : Option Clock :=
  if (m.group 4).isEmpty then none
  else some ⟨decimalValue (m.group 4), decimalValue (m.group 5), decimalValue (m.group 6),
    microOf (m.group 7), zoneOf m⟩

/-- The date that a text writes. -/
def Stamp.ofText (s : List Char) : Except Fault Stamp :=
  match (shortDayPattern ++ .opt timePattern ++ .textEnd).matchStart s with
  | none => .error .noDate
  | some m =>
    Stamp.check ⟨decimalValue (m.group 1), decimalValue (m.group 2), decimalValue (m.group 3),
      clockOf m⟩

/-! ## Writing -/

/-- A number with zeros before it, in `n` digits. -/
def padded (n k : Nat) : List Char :=
  let ds := numeral k
  List.replicate (n - ds.length) '0' ++ ds

/-- A zone as text. -/
def renderZone (minutes : Int) : List Char :=
  if minutes == 0 then ['Z']
  else (if minutes < 0 then '-' else '+')
    :: (padded 2 (minutes.natAbs / 60) ++ ':' :: padded 2 (minutes.natAbs % 60))

/-- A time of day as text. -/
def Clock.render (c : Clock) : List Char :=
  padded 2 c.hour ++ ':' :: padded 2 c.minute ++ ':' :: padded 2 c.second
    ++ (if c.micro == 0 then [] else '.' :: padded 6 c.micro)
    ++ (match c.zone with
      | some z => renderZone z
      | none => [])

/-- A date as text. -/
def Stamp.render (t : Stamp) : List Char :=
  padded 4 t.year ++ '-' :: padded 2 t.month ++ '-' :: padded 2 t.day
    ++ (match t.clock with
      | some c => 'T' :: c.render
      | none => [])

end Muster.Document.Yaml
