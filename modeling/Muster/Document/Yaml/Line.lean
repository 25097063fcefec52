/-
  Lines of a YAML text, and a place in one.

  A line ends at a line feed, a next-line character (U+0085) or one of the separators U+2028 and
  U+2029; read as text, the first two become a line feed and the separators stay themselves.  Blanks
  within a line are spaces and tabs, but only spaces indent.

  A CURSOR is what remains of the text, with the numbers of the characters, lines and columns
  passed.  A byte order mark takes up no column.
-/

namespace Muster.Document.Yaml

/-! ## Characters -/

/-- A character that ends a line. -/
def isBreak (c : Char) : Bool := c == '\n' || [0x85, 0x2028, 0x2029].contains c.toNat

/-- What a line break is read as. -/
def keptBreak (c : Char) : Char := if [0x2028, 0x2029].contains c.toNat then c else '\n'

/-- A blank within a line. -/
def isWhite (c : Char) : Bool := c == ' ' || c == '\t'

/-- A character that a document may hold. -/
def isAllowed (c : Char) : Bool :=
  let n := c.toNat
  n == 0x09 || n == 0x0A || n == 0x0D || (0x20 ≤ n && n ≤ 0x7E) || n == 0x85
    || (0xA0 ≤ n && n ≤ 0xFFFD) || 0x10000 ≤ n

/-- A text whose line breaks of one or two characters with a carriage return are line feeds. -/
def plainBreaks : List Char → List Char
  | [] => []
  | '\r' :: '\n' :: r => '\n' :: plainBreaks r
  | '\r' :: r => '\n' :: plainBreaks r
  | c :: r => c :: plainBreaks r

/-! ## What comes next -/

/-- Whether the line ends here. -/
def atLineEnd : List Char → Bool
  | [] => true
  | c :: _ => isBreak c

/-- Whether a space or the end of the line comes next. -/
def atSpace : List Char → Bool
  | [] => true
  | c :: _ => c == ' ' || isBreak c

/-- Whether a blank or the end of the line comes next. -/
def atWhite : List Char → Bool
  | [] => true
  | c :: _ => isWhite c || isBreak c

/-- Whether three dashes stand here alone. -/
def atDashes : List Char → Bool
  | '-' :: '-' :: '-' :: r => atWhite r
  | _ => false

/-- Whether three dots stand here alone. -/
def atDots : List Char → Bool
  | '.' :: '.' :: '.' :: r => atWhite r
  | _ => false

/-- Whether a line that begins here separates documents. -/
def atSeparator (s : List Char) : Bool := atDashes s || atDots s

/-- The text after the rest of a line that holds nothing but a comment. -/
def afterComment (s : List Char) : Option (List Char) :=
  let r := s.dropWhile (· == ' ')
  let r := if r.head? == some '#' then r.dropWhile (!isBreak ·) else r
  match r with
  | [] => some []
  | c :: t => if isBreak c then some t else none

/-- What lines are joined with: the first line break, and the breaks of the empty lines after it. -/
def joint (first : Char) (more : List Char) : List Char :=
  if keptBreak first != '\n' then keptBreak first :: more
  else if more.isEmpty then [' '] else more

/-! ## Cursors -/

/-- A place in a text. -/
structure Cursor where
  rest : List Char
  index : Nat
  line : Nat
  column : Nat

namespace Cursor

/-- The start of a text. -/
def start (s : List Char) : Cursor := ⟨s, 0, 0, 0⟩

/-- One character further. -/
def next (c : Cursor) : Cursor :=
  match c.rest with
  | [] => c
  | x :: r =>
    if isBreak x then ⟨r, c.index + 1, c.line + 1, 0⟩
    else if x.toNat == 0xFEFF then ⟨r, c.index + 1, c.line, c.column⟩
    else ⟨r, c.index + 1, c.line, c.column + 1⟩

/-- Some characters further. -/
def skip : Nat → Cursor → Cursor
  | 0, c => c
  | n + 1, c => skip n c.next

/-- The place where only `rest` remains. -/
def upTo (rest : List Char) (c : Cursor) : Cursor := c.skip (c.rest.length - rest.length)

end Cursor

end Muster.Document.Yaml
