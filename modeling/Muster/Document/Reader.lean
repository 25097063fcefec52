/-
  Reading document values as numbers, texts, lists and records.

  Reading is GENEROUS where nothing is lost: an integer may also be written as a double without
  fraction, as a truth value (0 or 1) or as a numeral in a text; a truth value as one of the words
  `true`, `yes`, `on`, `t`, `y`, `1` or their opposites.  Bytes count as the text that they are in
  UTF-8.  It is strict elsewhere: a text is a text, and `null` is accepted only where a value may be
  absent.

  (1) **`integer`, `text`, `boolean`** read single values, **`listOf`** lists, with the index of the
      offending item in the path.
  (2) **`integerOrText`** and **`flag`** are choices between kinds of values.  A value that already
      has one of the kinds is kept as it is; only then is a generous reading tried, kind by kind;
      and if none accepts, each kind reports its own problem under its own name.
  (3) **`required` and `optional`** read the fields of a record; fields nobody asks for are ignored.
-/
import Muster.Document.Basic
import Muster.Document.Problem
import Muster.Text.Cut

namespace Muster.Document

open Text

/-- A reading of a value. -/
abbrev Reader (α : Type) := Value → Checked α

/-! ## Single values -/

/-- The text of a value: bytes count as one if they are UTF-8. -/
def text : Reader String
  | .text s => .ok s
  | .bytes bs =>
    match Value.textOfBytes? bs with
    | some s => .ok s
    | none => .refuse .stringUnicode
  | _ => .refuse .stringType

/-! ## Numerals

A numeral is tried as it stands, PLAIN: perhaps a minus, and digits of which the first is no zero
unless it is alone.  If it is not plain it is TIDIED once: the blanks around it, a plus, leading
zeros, a fraction of zeros and single low lines are taken away, and what is left must be plain.
Zeros and low lines go first, so a minus may also come to light behind them. -/

/-- The most characters that a numeral may have. -/
def longestNumeral : Nat := 4300

/-- The integer that a plain numeral writes, or why there is none. -/
def plainInteger (s : List Char) : Except Cause Int :=
  let (negative, body) := match s with
    | '-' :: r => (true, r)
    | _ => (false, s)
  let ds := body.takeWhile isAsciiDigit
  let n : Int := decimalValue ds
  if ds.head? == some '0' then if body == ['0'] then .ok 0 else .error .intParsing
  else if ds.length + negative.toNat > longestNumeral then .error .intParsingSize
  else if ds.isEmpty || ds.length != body.length then .error .intParsing
  else .ok (if negative then -n else n)

/-- What is left behind a zero when zeros and low lines are taken away; `last` is the character
    before. -/
def afterZeros (last : Char) : List Char → Option (List Char)
  | [] => some [last]
  | c :: r =>
    if c == '0' || c == '_' then afterZeros c r
    else if isAsciiDigit c || c == '-' then some (c :: r)
    else if c == '.' then some (last :: c :: r)
    else none

/-- A numeral without its leading zeros; one of them stays if no digit follows. -/
def dropZeros : List Char → Option (List Char)
  | [] => none
  | c :: r =>
    if c == '0' then afterZeros c r
    else if isAsciiDigit c || c == '-' then some (c :: r)
    else none

/-- A numeral without its fraction, if that is made of zeros. -/
def dropZeroFraction (s : List Char) : List Char :=
  let fraction := (s.dropWhile (· != '.')).drop 1
  if !fraction.isEmpty && fraction.all (· == '0') then s.takeWhile (· != '.') else s

/-- A numeral without its low lines, if they are single and none begins or ends it. -/
def dropLowLines (s : List Char) : List Char :=
  if s.head? == some '_' || s.getLast? == some '_' || occurs ['_', '_'] s then s
  else s.filter (· != '_')

/-- A numeral tidied; nothing if it cannot be. -/
def tidied (s : List Char) : Option (List Char) := do
  let t := ((s.dropWhile isSpacing).reverse.dropWhile isSpacing).reverse
  let t ← match t with
    | '+' :: '-' :: _ => none
    | '+' :: r => some r
    | _ => some t
  let (sign, t) := match t with
    | '-' :: r => (['-'], r)
    | _ => ([], t)
  return sign ++ dropLowLines (dropZeroFraction (← dropZeros t))

/-- The integer that a text writes, or why there is none. -/
def numeralValue (s : List Char) : Except Cause Int :=
  match plainInteger s with
  | .error .intParsing =>
    match tidied s with
    | some t => plainInteger t
    | none => .error .intParsing
  | r => r

/-- The integer that a text writes. -/
def textInteger (s : List Char) : Checked Int :=
  match numeralValue s with
  | .ok n => .ok n
  | .error c => .refuse c

/-- Whether an integer has a place in a machine word of 64 bits. -/
def fitsWord (n : Int) : Bool := -9223372036854775808 ≤ n && n ≤ 9223372036854775807

/-- The integer that a double stands for.  Among doubles, the bounds of a machine word are both
    powers of two, and both are too large. -/
def integralDouble (x : Double) : Checked Int :=
  match x with
  | .finite .. =>
    match x.toInt? with
    | none => .refuse .intFromFloat
    | some n =>
      if -9223372036854775808 < n && n < 9223372036854775808 then .ok n
      else .refuse .intParsingSize
  | _ => .refuse .finiteNumber

/-- An integer. -/
def integer : Reader Int
  | .int n => .ok n
  | .bool b => .ok b.toInt
  | .double x => integralDouble x
  | .text s => textInteger s.toList
  | .bytes bs =>
    match Value.textOfBytes? bs with
    | some s => textInteger s.toList
    | none => .refuse .intParsing
  | _ => .refuse .intType

/-- An integer not below a bound. -/
def atLeast (low : Int) (r : Reader Int) : Reader Int := fun v =>
  (r v).andThen fun n => if n < low then .refuse .greaterThanEqual else .ok n

/-- An integer not above a bound. -/
def atMost (high : Int) (r : Reader Int) : Reader Int := fun v =>
  (r v).andThen fun n => if n > high then .refuse .lessThanEqual else .ok n

/-- The words for truth and falsehood. -/
def truthWords : List (String × Bool) := [
  ("true", true), ("yes", true), ("on", true), ("t", true), ("y", true), ("1", true),
  ("false", false), ("no", false), ("off", false), ("f", false), ("n", false), ("0", false)]

/-- ASCII letters in lower case. -/
def asciiLower (s : String) : String :=
  String.ofList (s.toList.map fun c => if 'A' ≤ c && c ≤ 'Z' then Char.ofNat (c.toNat + 32) else c)

/-- The truth value of 0 or 1. -/
def truthOfInt (n : Int) : Checked Bool :=
  if n == 0 then .ok false
  else if n == 1 then .ok true
  else if fitsWord n then .refuse .boolParsing
  else .refuse .boolType

/-- The truth value that a word stands for. -/
def truthOfWord (s : String) : Checked Bool :=
  match truthWords.lookup (asciiLower s) with
  | some b => .ok b
  | none => .refuse .boolParsing

/-- A truth value. -/
def boolean : Reader Bool
  | .bool b => .ok b
  | .int n => truthOfInt n
  | .double x =>
    match integralDouble x with
    | .ok n => truthOfInt n
    | .bad _ => .refuse .boolType
  | .text s => truthOfWord s
  | .bytes bs =>
    match Value.textOfBytes? bs with
    | some s => truthOfWord s
    | none => .refuse .boolParsing
  | _ => .refuse .boolType

/-- A text that names one of the members of a table. -/
def oneOf {α : Type} (table : List (String × α)) (c : Cause) : Reader α
  | .text s =>
    match table.lookup s with
    | some a => .ok a
    | none => .refuse c
  | _ => .refuse c

/-- A value or nothing. -/
def nullable {α : Type} (r : Reader α) : Reader (Option α)
  | .null => .ok none
  | v => some <$> r v

/-- Any value. -/
def anything : Reader Value := .ok

/-! ## Lists -/

/-- The items of a list from an index on. -/
def itemsFrom {α : Type} (r : Reader α) : Nat → List Value → Checked (List α)
  | _, [] => .ok []
  | i, v :: vs =>
    (fun a as => a :: as) <$> (r v).within (String.ofList (numeral i)) <*> itemsFrom r (i + 1) vs

/-- A list, refused for the given cause if it is none. -/
def listFor {α : Type} (c : Cause) (r : Reader α) : Reader (List α)
  | .list vs => itemsFrom r 0 vs
  | _ => .refuse c

/-- A list. -/
def listOf {α : Type} (r : Reader α) : Reader (List α) := listFor .listType r

/-- A list of fixed contents. -/
def tupleOf {α : Type} (r : Reader α) : Reader (List α) := listFor .tupleType r

/-- A pair, written as a list of two. -/
def pairOf {α : Type} (r : Reader α) : Reader (α × α)
  | .list (v :: w :: []) => (·, ·) <$> (r v).within "0" <*> (r w).within "1"
  | .list [v] => (·, ·) <$> (r v).within "0" <*> Checked.within "1" (.refuse .missing)
  | .list [] =>
    (·, ·) <$> Checked.within "0" (.refuse .missing) <*> Checked.within "1" (.refuse .missing)
  | .list _ => .refuse .tooLong
  | _ => .refuse .tupleType

/-! ## Choices between kinds -/

/-- An integer or a text. -/
inductive IntegerOrText where
  | integer (n : Int)
  | text (s : String)
deriving Repr, DecidableEq

/-- An integer or a text: a text stays one even if it is a numeral. -/
def integerOrText : Reader IntegerOrText
  | .text s => .ok (.text s)
  | v =>
    match integer v, text v with
    | .ok n, _ => .ok (.integer n)
    | .bad _, .ok s => .ok (.text s)
    | .bad ps, .bad qs => (fun _ a => a) <$> (Checked.bad ps : Checked Unit).within "int"
        <*> (Checked.bad qs : Checked IntegerOrText).within "str"

/-! ## Records -/

/-- Reads a record from an object. -/
def record {α : Type} (read : Value → Checked α) : Reader α
  | .object fs => read (.object fs)
  | _ => .refuse .modelType

/-- A field that must be there. -/
def required {α : Type} (v : Value) (name : String) (r : Reader α) : Checked α :=
  match v.field? name with
  | some w => (r w).within name
  | none => Checked.within name (.refuse .missing)

/-- A field that has a default. -/
def optional {α : Type} (v : Value) (name : String) (default : α) (r : Reader α) : Checked α :=
  match v.field? name with
  | some w => (r w).within name
  | none => .ok default

end Muster.Document
