/-
  Numbers of YAML: what the text of a scalar writes once it is known to be a number.

  The reading is wider than the looks of a plain number, for a tag may ask for it on any text:
    (1) blanks may stand around a numeral, its digits may be of any script, and low lines are
        dropped wherever they stand;
    (2) a sign may be followed by another one, the first being taken off before the numeral is read;
    (3) a numeral in base 2, 8 or 16 may begin with the mark of its base (`0b`, `0o`, `0x`);
    (4) colons separate the parts of a number in base sixty.  The parts of an integer are integers,
        and those of a double are doubles, added up from the last with a rounding at each step.
-/
import Muster.Document.Fault
import Muster.Document.Json
import Muster.Text.Cut
import Muster.Text.LetterCase

namespace Muster.Document.Yaml

open Text

/-! ## Numerals -/

/-- A sign, and the text after it. -/
def readSign : List Char → Bool × List Char
  | '-' :: r => (true, r)
  | '+' :: r => (false, r)
  | r => (false, r)

/-- The ASCII digit of a decimal digit of any script; other characters stay. -/
def plainDigit (c : Char) : Char :=
  match digitValue? c with
  | some n => Nat.digitChar n
  | none => c

/-- A numeral without the white space around it, its digits in ASCII. -/
def bareNumeral (s : List Char) : List Char :=
  (dropEndWhile isSpacing (s.dropWhile isSpacing)).map plainDigit

/-- The value of a digit in bases up to sixteen. -/
def valueIn? (base : Nat) (c : Char) : Option Nat := (Json.hexValue? c).filter (· < base)

/-- The letters that mark a base behind a zero. -/
def baseMarks : List (Char × Nat) := [
  ('b', 2), ('B', 2), ('o', 8), ('O', 8), ('x', 16), ('X', 16)]

/-- A numeral without the mark of its base. -/
def dropMark (base : Nat) : List Char → List Char
  | '0' :: c :: r => if baseMarks.lookup c == some base then r else '0' :: c :: r
  | r => r

/-- The integer that a numeral writes in a base. -/
def integerIn (base : Nat) (s : List Char) : Except Fault Int :=
  let (negative, r) := readSign (bareNumeral s)
  let r := dropMark base r
  let values := (r.takeWhile fun c => (valueIn? base c).isSome).filterMap (valueIn? base)
  let n : Int := (values.foldl (fun n d => base * n + d) 0 : Nat)
  if base == 10 && values.length > mostDigits then .error (.longNumeral ⟨values.length⟩)
  else if values.isEmpty || values.length != r.length then .error (.noInteger base s)
  else .ok (if negative then -n else n)

/-- The words for doubles. -/
def doubleWords : List (String × Double) := [
  ("inf", .infinite false), ("infinity", .infinite false), ("nan", .nan)]

/-- The exponent at the end of a double, and zero where there is none. -/
def exponentOf? : List Char → Option Int
  | [] => some 0
  | c :: r =>
    let (negative, ds) := readSign r
    let n : Int := decimalValue ds
    if (c == 'e' || c == 'E') && !ds.isEmpty && ds.all isAsciiDigit then
      some (if negative then -n else n)
    else none

/-- The double that digits write, with a point among them or an exponent behind them. -/
def decimalOf? (s : List Char) : Option Double := do
  let whole := s.takeWhile isAsciiDigit
  let r := s.dropWhile isAsciiDigit
  let pointed := r.head? == some '.'
  let fraction := if pointed then (r.drop 1).takeWhile isAsciiDigit else []
  let r := if pointed then (r.drop 1).dropWhile isAsciiDigit else r
  if (whole ++ fraction).isEmpty then none
  let exponent ← exponentOf? r
  return Double.ofDecimal false (decimalValue (whole ++ fraction)) (exponent - fraction.length)

/-- The double that a numeral or a word writes. -/
def doubleIn (s : List Char) : Except Fault Double :=
  let (negative, r) := readSign (bareNumeral s)
  match (doubleWords.lookup (String.ofList (lower r))).or (decimalOf? r) with
  | some x => .ok (if negative then x.neg else x)
  | none => .error (.noDouble s)

/-! ## Base sixty -/

/-- The parts of a number in base sixty. -/
def sixtieths (s : List Char) : List (List Char) := splitWhere (· == ':') s

/-- The integer that parts in base sixty write. -/
def sixtyInteger (s : List Char) : Except Fault Int := do
  return (← (sixtieths s).mapM (integerIn 10)).foldl (fun n d => 60 * n + d) 0

/-- The sum of doubles, the last part first, each sixty times as heavy as the one before. -/
def weighSixtieths : Double → Nat → List Double → Double
  | sum, _, [] => sum
  | sum, weight, x :: xs =>
    weighSixtieths (sum.add (x.mul (.ofNat weight))) (60 * weight) xs

/-- The double that parts in base sixty write. -/
def sixtyDouble (s : List Char) : Except Fault Double := do
  return weighSixtieths (.ofNat 0) 1 (← (sixtieths s).mapM doubleIn).reverse

/-! ## Scalars -/

/-- The integer without sign that a scalar writes. -/
def magnitude : List Char → Except Fault Int
  | [] => .error .emptyNumber
  | '0' :: 'b' :: r => integerIn 2 r
  | '0' :: 'x' :: r => integerIn 16 r
  | '0' :: r => integerIn 8 ('0' :: r)
  | r => if r.contains ':' then sixtyInteger r else integerIn 10 r

/-- The integer that a scalar writes. -/
def integerOf (s : List Char) : Except Fault Int :=
  let (negative, r) := readSign (s.filter (· != '_'))
  (magnitude r).map fun n => if negative then -n else n

/-- The double without sign that a scalar writes. -/
def doubleMagnitude (s : List Char) : Except Fault Double :=
  if s == ".inf".toList then .ok (.infinite false)
  else if s == ".nan".toList then .ok .nan
  else if s.contains ':' then sixtyDouble s
  else doubleIn s

/-- The double that a scalar writes. -/
def doubleOf (s : List Char) : Except Fault Double :=
  let t := lower (s.filter (· != '_'))
  let (negative, r) := readSign t
  if t.isEmpty then .error .emptyNumber
  else (doubleMagnitude r).map fun x => if negative then x.neg else x

end Muster.Document.Yaml
