/-
  Counts in rule text.

  "up to three weapons" and "up to 3 weapons" mean the same, so a count is an ASCII numeral or one
  of the words `one` to `ten` in any case.  LOOKING for a count is more generous than READING it:
  the pattern accepts decimal digits of every script and case-ignored letters such as the long `s`,
  and what it found but cannot read is an error that names the token as it stands in the text.  A
  numeral too long to be read is another error, and a graver one: who reads past tokens that are no
  counts still stops at it.
-/
import Muster.Text.LetterCase
import Muster.Text.Pattern
import Muster.Text.Cut

namespace Muster.Wargear

open Text

/-- Why a count cannot be read. -/
inductive UnreadCount where
  /-- A token that stands where a count should, and is none. -/
  | noCount (token : String)
  | longNumeral (e : LongNumeral)
deriving Repr, DecidableEq

/-- What to say about a count that cannot be read. -/
def UnreadCount.message : UnreadCount → String
  | noCount token => "Cannot read '" ++ token ++ "' as a number"
  | longNumeral e => e.message

/-- The count words, each at the place of its number less one. -/
def countWords : List (List Char) :=
  ["one", "two", "three", "four", "five", "six", "seven", "eight", "nine", "ten"].map String.toList

/-- The number a count word stands for. -/
def countWord? (w : List Char) : Option Nat := (countWords.findIdx? (· == w)).map (· + 1)

/-- Reads a count: a numeral of ASCII digits, or a word from one to ten. -/
def readCount (token : List Char) : Except UnreadCount Nat :=
  let w := lower (trim token)
  match countWord? w with
  | some n => .ok n
  | none =>
    if !w.isEmpty && w.all isAsciiDigit then (readNumeral w).mapError .longNumeral
    else .error (.noCount (String.ofList token))

/-- Reads a count, or nothing where a token is no count. -/
def readCount? (token : List Char) : Except LongNumeral (Option Nat) :=
  match readCount token with
  | .ok n => .ok (some n)
  | .error (.noCount _) => .ok none
  | .error (.longNumeral e) => .error e

/-- A count as group `n` of a pattern. -/
def countAs (n : Nat) : Pattern :=
  .group n (.firstOf (.longest isDecimal :: countWords.map Pattern.textOf))

/-- A count followed by a gap and a text that runs to the end: groups 1 and 2. -/
def countedText : Pattern :=
  countAs 1 ++ .gap ++ .group 2 (.longest Pattern.anyChar) ++ .textEnd

end Muster.Wargear
