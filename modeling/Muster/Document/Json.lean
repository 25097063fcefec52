/-
  JSON: reading a document and writing one without spaces.

  (1) **Reading** accepts RFC 8259 and three words more, `NaN`, `Infinity` and `-Infinity`.  A
      number without fraction and exponent is an integer, of 4300 digits at most, any other a
      double.  Of two fields with one key the later value wins, in the place of the earlier.
      Control characters must be escaped within a text.  A text that holds half of a surrogate pair
      is TORN; it has no place among texts and is kept as a foreign value.  Collections may be
      nested 990 deep.  Nothing may follow the document but blanks.
  (2) **Writing** puts no blanks, keeps the order of fields, and escapes `"`, `\` and the control
      characters below U+0020 only; all other characters stand as they are.

  Reading is by fuel, and the length of the text is always enough, since every nested step consumes
  a character first.
-/
import Muster.Document.Basic
import Muster.Document.Fault
import Muster.Table

namespace Muster.Document.Json

open Text

/-! ## Writing -/

/-- A hexadecimal digit, lower case. -/
def hexDigit (n : Nat) : Char := Nat.digitChar n

/-- A character within a quoted text. -/
def escape (c : Char) : List Char :=
  if c == '"' then ['\\', '"']
  else if c == '\\' then ['\\', '\\']
  else if c.toNat == 0x08 then ['\\', 'b']
  else if c.toNat == 0x09 then ['\\', 't']
  else if c.toNat == 0x0A then ['\\', 'n']
  else if c.toNat == 0x0C then ['\\', 'f']
  else if c.toNat == 0x0D then ['\\', 'r']
  else if c.toNat < 0x20 then
    ['\\', 'u', '0', '0', hexDigit (c.toNat / 16), hexDigit (c.toNat % 16)]
  else [c]

/-- A text in quotes. -/
def quoted (s : List Char) : List Char := '"' :: (s.flatMap escape ++ ['"'])

/-- The text of a key. -/
def keyText : Key → List Char
  | .text s => s.toList
  | .other s => s.toList

mutual

/-- The compact form of a value. -/
def write : Value → List Char
  | .null => "null".toList
  | .bool b => (if b then "true" else "false").toList
  | .int n => signed n
  | .double x => x.render
  | .text s => quoted s.toList
  | .foreign s => quoted s.toList
  | .bytes bs => quoted (((Value.textOfBytes? bs).getD "").toList)
  | .endless => "null".toList
  | .list vs => '[' :: (writeItems vs ++ [']'])
  | .object fs => '\x7b' :: (writeFields fs ++ ['\x7d'])

/-- Values between commas. -/
def writeItems : List Value → List Char
  | [] => []
  | [v] => write v
  | v :: vs => write v ++ ',' :: writeItems vs

/-- Fields between commas. -/
def writeFields : List (Key × Value) → List Char
  | [] => []
  | [(k, v)] => quoted (keyText k) ++ ':' :: write v
  | (k, v) :: fs => quoted (keyText k) ++ ':' :: (write v ++ ',' :: writeFields fs)

end

/-- The number of bytes of the compact form. -/
def size (v : Value) : Nat := (String.ofList (write v)).utf8ByteSize

/-! ## Reading: tokens -/

/-- A blank between tokens. -/
def isSpace (c : Char) : Bool := c == ' ' || c == '\t' || c == '\n' || c == '\r'

/-- The value of a hexadecimal digit. -/
def hexValue? (c : Char) : Option Nat :=
  if '0' ≤ c && c ≤ '9' then some (c.toNat - 48)
  else if 'a' ≤ c && c ≤ 'f' then some (c.toNat - 87)
  else if 'A' ≤ c && c ≤ 'F' then some (c.toNat - 55)
  else none

/-- Four hexadecimal digits. -/
def readHex : List Char → Option (Nat × List Char)
  | a :: b :: c :: d :: r => do
    let a ← hexValue? a
    let b ← hexValue? b
    let c ← hexValue? c
    let d ← hexValue? d
    return (((a * 16 + b) * 16 + c) * 16 + d, r)
  | _ => none

/-- The character of a one-letter escape. -/
def escapeChar? (c : Char) : Option Char :=
  match c with
  | '"' => some '"'
  | '\\' => some '\\'
  | '/' => some '/'
  | 'b' => some (Char.ofNat 0x08)
  | 'f' => some (Char.ofNat 0x0C)
  | 'n' => some '\n'
  | 'r' => some '\r'
  | 't' => some '\t'
  | _ => none

/-- The character of a four-digit escape; a high and a low surrogate are one character, and of a
    surrogate alone there is none. -/
def readCodePoint (r : List Char) : Option (Option Char × List Char) := do
  let (n, r) ← readHex r
  if 0xD800 ≤ n && n < 0xDC00 then
    match r with
    | '\\' :: 'u' :: t =>
      let (m, t) ← readHex t
      if 0xDC00 ≤ m && m < 0xE000 then
        return (some (Char.ofNat (0x10000 + (n - 0xD800) * 0x400 + (m - 0xDC00))), t)
      else return (none, r)
    | _ => return (none, r)
  else if 0xDC00 ≤ n && n < 0xE000 then return (none, r)
  else return (some (Char.ofNat n), r)

/-- A text as it is read: the characters, and whether any is missing. -/
structure Quote where
  text : List Char
  torn : Bool

/-- A text as a value. -/
def Quote.toValue (q : Quote) : Value :=
  if q.torn then .foreign (String.ofList q.text) else .text (String.ofList q.text)

/-- A text as a key. -/
def Quote.toKey (q : Quote) : Key :=
  if q.torn then .other (String.ofList q.text) else .text (String.ofList q.text)

/-- The rest of a text after its opening quote; `acc` holds what was read, last character first. -/
def readText : Nat → List Char → Bool → List Char → Option (Quote × List Char)
  | 0, _, _, _ => none
  | fuel + 1, acc, torn, s =>
    match s with
    | [] => none
    | '"' :: r => some (⟨acc.reverse, torn⟩, r)
    | '\\' :: 'u' :: r => do
      let (c, r) ← readCodePoint r
      readText fuel (c.getD (Char.ofNat 0xFFFD) :: acc) (torn || c.isNone) r
    | '\\' :: c :: r => do
      let c ← escapeChar? c
      readText fuel (c :: acc) torn r
    | c :: r => if c.toNat < 0x20 then none else readText fuel (c :: acc) torn r

/-- The digits at the start of a text, and the rest. -/
def takeDigits (s : List Char) : List Char × List Char :=
  (s.takeWhile isAsciiDigit, s.dropWhile isAsciiDigit)

/-- A fraction, if one starts here. -/
def readFraction (s : List Char) : List Char × List Char :=
  match s with
  | '.' :: r =>
    let (ds, t) := takeDigits r
    if ds.isEmpty then ([], s) else (ds, t)
  | _ => ([], s)

/-- An exponent, if one starts here. -/
def readExponent (s : List Char) : Option Int × List Char :=
  match s with
  | e :: r =>
    if e == 'e' || e == 'E' then
      let (negative, r) := match r with
        | '-' :: t => (true, t)
        | '+' :: t => (false, t)
        | _ => (false, r)
      let (ds, t) := takeDigits r
      if ds.isEmpty then (none, s)
      else (some (if negative then -(decimalValue ds : Int) else decimalValue ds), t)
    else (none, s)
  | [] => (none, s)

/-- A number without its sign. -/
def readUnsigned (negative : Bool) (s : List Char) : Except Fault (Value × List Char) :=
  let (whole, r) := match s with
    | '0' :: t => (['0'], t)
    | _ => takeDigits s
  if whole.isEmpty then .error .malformed
  else
    let (fraction, t) := readFraction r
    let (exponent, u) := readExponent t
    if fraction.isEmpty && exponent.isNone then
      match readNumeral whole with
      | .ok n => .ok (.int (if negative then -n else n), r)
      | .error e => .error (.longNumeral e)
    else
      .ok (.double (Double.ofDecimal negative (decimalValue (whole ++ fraction))
        (exponent.getD 0 - fraction.length)), u)

/-- The rest of a text after a word. -/
def afterWord (w s : List Char) : Option (List Char) :=
  match w, s with
  | [], s => some s
  | c :: w, d :: s => if c == d then afterWord w s else none
  | _ :: _, [] => none

/-- The words that are values. -/
def valueWords : List (String × Value) := [
  ("null", .null), ("true", .bool true), ("false", .bool false), ("NaN", .double .nan),
  ("Infinity", .double (.infinite false)), ("-Infinity", .double (.infinite true))]

/-- A word that is a value. -/
def readWord (s : List Char) : Option (Value × List Char) :=
  valueWords.findSome? fun w => (afterWord w.1.toList s).map fun r => (w.2, r)

/-- A number. -/
def readNumber (s : List Char) : Except Fault (Value × List Char) :=
  match s with
  | '-' :: r => readUnsigned true r
  | _ => readUnsigned false s

/-! ## Reading: values -/

mutual

/-- A value at the start of a text, and the rest; `deep` collections may be nested. -/
def readValue : Nat → Nat → List Char → Except Fault (Value × List Char)
  | 0, _, _ => .error .malformed
  | fuel + 1, deep, s =>
    match s.dropWhile isSpace, deep with
    | '"' :: r, _ =>
      (orMalformed (readText (r.length + 1) [] false r)).map fun p => (p.1.toValue, p.2)
    | '[' :: _, 0 => .error .tooDeep
    | '\x7b' :: _, 0 => .error .tooDeep
    | '[' :: r, deep + 1 =>
      match r.dropWhile isSpace with
      | ']' :: t => .ok (.list [], t)
      | t => (readItems fuel deep [] t).map fun p => (.list p.1, p.2)
    | '\x7b' :: r, deep + 1 =>
      match r.dropWhile isSpace with
      | '\x7d' :: t => .ok (.object [], t)
      | t => (readFields fuel deep [] t).map fun p => (.object p.1, p.2)
    | t, _ =>
      match readWord t with
      | some p => .ok p
      | none => readNumber t

/-- The items of a list up to its closing bracket; `acc` holds those read, last first. -/
def readItems : Nat → Nat → List Value → List Char → Except Fault (List Value × List Char)
  | 0, _, _, _ => .error .malformed
  | fuel + 1, deep, acc, s => do
    let (v, r) ← readValue fuel deep s
    match r.dropWhile isSpace with
    | ',' :: t => readItems fuel deep (v :: acc) t
    | ']' :: t => return ((v :: acc).reverse, t)
    | _ => .error .malformed

/-- The fields of an object up to its closing brace; `acc` holds those read. -/
def readFields :
    Nat → Nat → List (Key × Value) → List Char → Except Fault (List (Key × Value) × List Char)
  | 0, _, _, _ => .error .malformed
  | fuel + 1, deep, acc, s =>
    match s.dropWhile isSpace with
    | '"' :: r => do
      let (k, r) ← orMalformed (readText (r.length + 1) [] false r)
      match r.dropWhile isSpace with
      | ':' :: r =>
        let (v, r) ← readValue fuel deep r
        let acc := Table.put k.toKey v acc
        match r.dropWhile isSpace with
        | ',' :: t => readFields fuel deep acc t
        | '\x7d' :: t => return (acc, t)
        | _ => .error .malformed
      | _ => .error .malformed
    | _ => .error .malformed

end

/-- The most collections that may be nested. -/
def deepest : Nat := 990

/-- Reads a whole document. -/
def read (s : List Char) : Except Fault Value := do
  let (v, r) ← readValue (2 * s.length + 2) deepest s
  if (r.dropWhile isSpace).isEmpty then return v else .error .malformed

end Muster.Document.Json
