/-
  Block scalars of YAML: texts marked by a bar or an angle bracket and written on lines of their
  own.

  The HEADER says what becomes of the line breaks at the end (one is kept, none, or all) and may
  give the indentation; else the first line that is not empty gives it.  Behind a bar all line
  breaks are kept.  Behind an angle bracket a single line break between two lines that do not begin
  with a blank is a space.
-/
import Muster.Document.Yaml.Line
import Muster.Text.Digit

namespace Muster.Document.Yaml

open Text

/-- What becomes of the line breaks at the end of a block scalar. -/
inductive Chomp where
  /-- The last line keeps its break. -/
  | clip
  /-- None is kept. -/
  | strip
  /-- All are kept. -/
  | keep
deriving Repr, DecidableEq

/-! ## Headers -/

/-- The header of a block scalar. -/
structure Header where
  chomp : Chomp
  /-- The indentation beyond that of the parent, if it is given. -/
  increment : Option Nat

/-- A sign that says what becomes of the line breaks at the end. -/
def readChomp : List Char → Chomp × List Char
  | '+' :: r => (.keep, r)
  | '-' :: r => (.strip, r)
  | r => (.clip, r)

/-- A digit that gives the indentation. -/
def readIncrement : List Char → Option Nat × List Char
  | [] => (none, [])
  | c :: r => if isAsciiDigit c then (some (decimalValue [c]), r) else (none, c :: r)

/-- The header, sign and digit in either order, and the text from the next line on. -/
def readHeader (s : List Char) : Option (Header × List Char) := do
  let (chomp, r) := readChomp s
  let (increment, r) := readIncrement r
  let (chomp, r) := if chomp == .clip then readChomp r else (chomp, r)
  if increment == some 0 || !atSpace r then none
  let r ← afterComment r
  return (⟨chomp, increment⟩, r)

/-! ## Lines -/

/-- The empty lines before the first line: their breaks, the widest indentation met, the column
    reached and the text from there on. -/
def leadingLines : Nat → Nat → List Char → List Char × Nat × Nat × List Char
  | column, widest, [] => ([], widest, column, [])
  | column, widest, c :: r =>
    if c == ' ' then leadingLines (column + 1) (max widest (column + 1)) r
    else if isBreak c then
      let (bs, more) := leadingLines 0 widest r
      (keptBreak c :: bs, more)
    else ([], widest, column, c :: r)

/-- The empty lines before a line of an indentation: their breaks, the column reached, at most the
    indentation, and the text from there on. -/
def emptyBlockLines (indent : Nat) : Nat → List Char → List Char × Nat × List Char
  | column, [] => ([], column, [])
  | column, c :: r =>
    if c == ' ' && column < indent then emptyBlockLines indent (column + 1) r
    else if isBreak c then
      let (bs, more) := emptyBlockLines indent 0 r
      (keptBreak c :: bs, more)
    else ([], column, c :: r)

/-- Whether a line begins with a blank. -/
def beginsWhite : List Char → Bool
  | [] => false
  | c :: _ => isWhite c

/-- What stands between two lines of a scalar. -/
def lineJoint (folded : Bool) (ending : Char) (empty line next : List Char) : List Char :=
  if folded && ending == '\n' && !beginsWhite line && !beginsWhite next then
    if empty.isEmpty then [' '] else empty
  else ending :: empty

/-- The lines of a scalar from here on, the column being its indentation: the text without its last
    line break, that break, the breaks of the empty lines at the end, and the text after the scalar.
    Every step takes a line. -/
def blockLines (folded : Bool) (indent : Nat) :
    Nat → List Char → List Char × List Char × List Char × List Char
  | 0, s => ([], [], [], s)
  | fuel + 1, s =>
    let line := s.takeWhile (!isBreak ·)
    match s.dropWhile (!isBreak ·) with
    | [] => (line, [], [], [])
    | c :: r =>
      let (empty, column, t) := emptyBlockLines indent 0 r
      if column == indent && !t.isEmpty then
        let (text, tail) := blockLines folded indent fuel t
        (line ++ lineJoint folded (keptBreak c) empty s t ++ text, tail)
      else (line, [keptBreak c], empty, t)

/-- The text of a block scalar whose lines are indented by at least `least`, given the text after
    its indicator, and what follows the scalar. -/
def readBlock (folded : Bool) (least : Nat) (s : List Char) : Option (List Char × List Char) := do
  let (header, r) ← readHeader s
  let (indent, breaks, column, r) := match header.increment with
    | some n =>
      let indent := least + n - 1
      (indent, emptyBlockLines indent 0 r)
    | none =>
      let (breaks, widest, more) := leadingLines 0 0 r
      (max least widest, breaks, more)
  let (text, ending, empty, r) :=
    if column == indent && !r.isEmpty then
      let (text, ending, empty, r) := blockLines folded indent (r.length + 1) r
      (breaks ++ text, ending, empty, r)
    else ([], [], breaks, r)
  return match header.chomp with
    | .strip => (text, r)
    | .clip => (text ++ ending, r)
    | .keep => (text ++ ending ++ empty, r)

end Muster.Document.Yaml
