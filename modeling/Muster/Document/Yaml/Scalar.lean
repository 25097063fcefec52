/-
  What scalars of YAML stand for.

  A plain scalar without tag stands for what its text looks like: nothing, a truth value, an
  integer, a double, a date, or else a text.  The looks are those of YAML 1.1, and they are wide:
    (1) `yes`, `no`, `on` and `off` are truth values, as `true` and `false` are, in three spellings
        of case each;
    (2) integers may be binary, octal (by a leading zero), hexadecimal, or in base sixty with
        colons, and low lines may stand among digits;
    (3) a double has a decimal point, and its exponent a sign.
  Two texts have a use among the keys of a mapping only: `<<`, which merges, and `=`.

  LOOKS and VALUE are apart.  The looks give a tag where none is stated; a stated tag may stand on
  any text.  The value is then read by the rule of the tag, and where that rule gives nothing, the
  document has a fault, even if the text looked right: `0b_` looks like an integer without having
  any digits.
-/
import Muster.Document.Yaml.Binary
import Muster.Document.Yaml.Date
import Muster.Document.Yaml.Number

namespace Muster.Document.Yaml

open Text

/-- What a tag says of its node. -/
inductive Tag where
  | null
  | boolean
  | integer
  | float
  | timestamp
  | text
  | binary
  | list
  | mapping
  /-- A mapping of which only the keys count. -/
  | set
  /-- A list of mappings of one pair each. -/
  | pairs
  /-- A key that merges mappings. -/
  | merge
  /-- A key that stands for the value as such. -/
  | default
  /-- A text that has no place among texts. -/
  | torn
  | unknown
deriving Repr, DecidableEq

/-- The stem of the standard tags. -/
def standardStem : List Char := "tag:yaml.org,2002:".toList

/-- The standard tags behind their stem. -/
def standardTags : List (String × Tag) := [
  ("null", .null), ("bool", .boolean), ("int", .integer), ("float", .float),
  ("timestamp", .timestamp), ("str", .text), ("binary", .binary), ("seq", .list),
  ("map", .mapping), ("set", .set), ("omap", .pairs), ("pairs", .pairs), ("merge", .merge),
  ("value", .default)]

/-- The tag of a name. -/
def Tag.ofName (s : List Char) : Tag :=
  if begins standardStem s then
    (standardTags.lookup (String.ofList (s.drop standardStem.length))).getD .unknown
  else .unknown

/-! ## Words -/

/-- The spellings of nothing. -/
def nullWords : List String := ["", "~", "null", "Null", "NULL"]

/-- The words for truth values. -/
def truthNames : List (String × Bool) := [
  ("yes", true), ("no", false), ("true", true), ("false", false), ("on", true), ("off", false)]

/-- A word capitalised. -/
def capital : List Char → List Char
  | [] => []
  | c :: r => upper [c] ++ r

/-- Whether a text looks like a truth value: one of the words in lower case, capitalised, or in
    upper case. -/
def looksBoolean (s : List Char) : Bool :=
  truthNames.any fun p => let w := p.1.toList; s == w || s == capital w || s == upper w

/-! ## Looks of numbers -/

/-- Whether a text is not empty and of one class. -/
def allOf (ok : Char → Bool) (s : List Char) : Bool := !s.isEmpty && s.all ok

/-- A digit or a low line. -/
def isLoose (c : Char) : Bool := isAsciiDigit c || c == '_'

/-- Whether a text is a digit with digits and low lines behind it. -/
def looksLoose : List Char → Bool
  | [] => false
  | c :: r => isAsciiDigit c && r.all isLoose

/-- Whether a text looks like a part in base sixty: one digit or two, below sixty. -/
def looksSixtieth : List Char → Bool
  | [a] => isAsciiDigit a
  | [a, b] => '0' ≤ a && a ≤ '5' && isAsciiDigit b
  | _ => false

/-- Whether a text looks like a number in base sixty, its first part and then one part or more. -/
def looksSixty (s : List Char) : Bool :=
  match sixtieths s with
  | first :: second :: parts => looksLoose first && (second :: parts).all looksSixtieth
  | _ => false

/-- Whether a text without sign looks like an integer. -/
def looksMagnitude : List Char → Bool
  | ['0'] => true
  | '0' :: 'b' :: r => allOf (fun c => c == '0' || c == '1' || c == '_') r
  | '0' :: 'x' :: r => allOf (fun c => (Json.hexValue? c).isSome || c == '_') r
  | '0' :: r => allOf (fun c => ('0' ≤ c && c ≤ '7') || c == '_') r
  | r => looksLoose r || looksSixty r

/-- Whether a text looks like an integer. -/
def looksInteger (s : List Char) : Bool := looksMagnitude (readSign s).2

/-- Whether a text looks like the exponent of a double, or is empty. -/
def looksExponent : List Char → Bool
  | [] => true
  | e :: sign :: ds =>
    (e == 'e' || e == 'E') && (sign == '-' || sign == '+') && allOf isAsciiDigit ds
  | _ => false

/-- Whether a text looks like a double; before a point without digits there is no sign, and behind
    parts in base sixty there is no exponent. -/
def looksDouble (s : List Char) : Bool :=
  let r := (readSign s).2
  let signed := r.length < s.length
  let whole := r.takeWhile (· != '.')
  let after := (r.dropWhile (· != '.')).drop 1
  let rest := after.dropWhile isLoose
  if !r.contains '.' then false
  else if [".inf", ".Inf", ".INF"].contains (String.ofList r) then true
  else if [".nan", ".NaN", ".NAN"].contains (String.ofList s) then true
  else if whole.isEmpty then !signed && looksLoose (after.takeWhile isLoose) && looksExponent rest
  else (looksLoose whole && looksExponent rest) || (looksSixty whole && rest.isEmpty)

/-! ## Tags by looks -/

/-- A text without the line break at its end, which looks do not mind. -/
def withoutLastBreak (s : List Char) : List Char :=
  if s.getLast? == some '\n' && s.length > 1 then s.dropLast else s

/-- What a plain scalar looks like. -/
def plainTag (s : List Char) : Tag :=
  let t := withoutLastBreak s
  let word := String.ofList t
  if nullWords.contains word then .null
  else if looksBoolean t then .boolean
  else if looksInteger t then .integer
  else if looksDouble t then .float
  else if looksDate t then .timestamp
  else if word == "<<" then .merge
  else if word == "=" then .default
  else .text

/-! ## Values -/

/-- The value of a scalar with a tag. -/
def scalarValue (t : Tag) (s : List Char) : Except Fault Value :=
  match t with
  | .null => .ok .null
  | .boolean =>
    match truthNames.lookup (String.ofList (lower s)) with
    | some b => .ok (.bool b)
    | none => .error .noTruthValue
  | .integer => (integerOf s).map .int
  | .float => (doubleOf s).map .double
  | .timestamp => (Stamp.ofText s).map fun t => .foreign (String.ofList t.render)
  | .text => .ok (.text (String.ofList s))
  | .torn => .ok (.foreign (String.ofList s))
  | .binary =>
    match bytesOf? s with
    | some bs => .ok (.bytes bs)
    | none => .error .malformed
  | .list | .mapping | .set | .pairs | .merge | .default | .unknown => .error .malformed

end Muster.Document.Yaml
