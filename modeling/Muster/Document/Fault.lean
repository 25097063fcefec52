/-
  Why a text cannot be read as a document.

  Most texts are refused because they are not in the notation: they are MALFORMED, and no more is
  said about them.  Some are in the notation and yet hold something that stands for no value, such
  as a date in a thirteenth month; others are nested deeper or have longer numerals than is read.
  These have causes of their own, and some have a wording.
-/
import Muster.Text.Quoted
import Muster.Text.Digit

namespace Muster.Document

open Text

/-- A part of a date or a time. -/
inductive DatePart where
  | year
  | month
  | day
  | hour
  | minute
  | second
deriving Repr, DecidableEq

/-- Why a text cannot be read as a document. -/
inductive Fault where
  /-- The text is not in the notation. -/
  | malformed
  /-- Collections are nested too deep. -/
  | tooDeep
  /-- A text that writes no integer in a base. -/
  | noInteger (base : Nat) (text : List Char)
  /-- An integer of more decimal digits than are read. -/
  | longNumeral (e : LongNumeral)
  /-- A text that writes no double. -/
  | noDouble (text : List Char)
  /-- An empty text for a number. -/
  | emptyNumber
  /-- A text for a truth value that is none of the words for one. -/
  | noTruthValue
  /-- A text for a date that has not the form of one. -/
  | noDate
  /-- A part of a date out of its range. -/
  | noSuchDate (part : DatePart)
  /-- A zone of a day or more ahead or behind, in minutes. -/
  | noSuchZone (offset : Int)
  /-- A number beyond the last character. -/
  | noCharacter
  /-- A number for a character that is beyond 31 bits. -/
  | hugeCharacter
deriving Repr, DecidableEq

/-- What is wrong with a part of a date. -/
def DatePart.message : DatePart → String
  | year => "year 0 is out of range"
  | month => "month must be in 1..12"
  | day => "day is out of range for month"
  | hour => "hour must be in 0..23"
  | minute => "minute must be in 0..59"
  | second => "second must be in 0..59"

/-- A number of minutes as whole days and the seconds left over. -/
def showOffset (minutes : Int) : String :=
  let days := String.ofList (signed (Int.fdiv minutes 1440))
  let seconds := 60 * Int.fmod minutes 1440
  "datetime.timedelta(days=" ++ days
    ++ (if seconds == 0 then "" else ", seconds=" ++ String.ofList (signed seconds)) ++ ")"

/-- What to say about a fault that has a wording. -/
def Fault.message? : Fault → Option String
  | noInteger base text =>
    some ("invalid literal for int() with base " ++ String.ofList (numeral base) ++ ": "
      ++ String.ofList ((quotedText text).take 200))
  | longNumeral e => some e.message
  | noDouble text => some ("could not convert string to float: " ++ String.ofList (quotedText text))
  | noSuchDate part => some part.message
  | noSuchZone offset =>
    some ("offset must be a timedelta strictly between -timedelta(hours=24) and "
      ++ "timedelta(hours=24), not " ++ showOffset offset ++ ".")
  | noCharacter => some "chr() arg not in range(0x110000)"
  | malformed | tooDeep | emptyNumber | noTruthValue | noDate | hugeCharacter => none

/-- A part that is there, or else the text is malformed. -/
def orMalformed {α : Type} : Option α → Except Fault α
  | some a => .ok a
  | none => .error .malformed

end Muster.Document
