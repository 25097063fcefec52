/-
  Quoted scalars of YAML.

  Between single quotes a quote is written twice; between double quotes a backslash escapes.  A line
  break within quotes folds: with the blanks around it, it is one space, or, where empty lines
  follow, one line feed for each of these.  A line that separates documents may not stand within
  quotes.

  An escape by number may be that of half a surrogate pair, which leaves the text TORN, or lie
  beyond the last character, which is a fault.
-/
import Muster.Document.Json
import Muster.Document.Yaml.Line

namespace Muster.Document.Yaml

/-! ## Folding -/

/-- The breaks of the empty lines from here on, and the text from the next word on; `fresh` says
    whether a line begins here. -/
def emptyLines : Bool → List Char → Option (List Char × List Char)
  | _, [] => some ([], [])
  | fresh, c :: r =>
    if fresh && atSeparator (c :: r) then none
    else if isWhite c then emptyLines false r
    else if isBreak c then (emptyLines true r).map fun p => (keptBreak c :: p.1, p.2)
    else some ([], c :: r)

/-- What the blanks and line breaks at the start of a text come to, and the text after them. -/
def foldedSpace (s : List Char) : Option (List Char × List Char) :=
  match s.dropWhile isWhite with
  | [] => none
  | c :: r =>
    if isBreak c then (emptyLines true r).map fun p => (joint c p.1, p.2)
    else some (s.takeWhile isWhite, c :: r)

/-! ## Escapes -/

/-- The characters with an escape of one letter, by code point. -/
def letterEscapes : List (Char × Nat) := [
  ('0', 0x00), ('a', 0x07), ('b', 0x08), ('t', 0x09), ('\t', 0x09), ('n', 0x0A), ('v', 0x0B),
  ('f', 0x0C), ('r', 0x0D), ('e', 0x1B), (' ', 0x20), ('"', 0x22), ('\\', 0x5C), ('/', 0x2F),
  ('N', 0x85), ('_', 0xA0), ('L', 0x2028), ('P', 0x2029)]

/-- The letters of the escapes by number, with the count of digits each takes. -/
def numberEscapes : List (Char × Nat) := [('x', 2), ('u', 4), ('U', 8)]

/-- The number that hexadecimal digits write. -/
def hexNumber? (ds : List Char) : Option Nat := do
  return (← ds.mapM Json.hexValue?).foldl (fun n d => 16 * n + d) 0

/-- The character of a number, if it has one; of half a surrogate pair there is none. -/
def charOfNumber (n : Nat) : Except Fault (Option Char) :=
  if n ≥ 0x80000000 then .error .hugeCharacter
  else if n ≥ 0x110000 then .error .noCharacter
  else if n.isValidChar then .ok (some (Char.ofNat n))
  else .ok none

/-- What a piece of a scalar comes to: its characters, whether one is missing, and the text after
    it. -/
abbrev Piece := List Char × Bool × List Char

/-- What an escape comes to, given the text after the backslash. -/
def unescape : List Char → Except Fault Piece
  | [] => .error .malformed
  | c :: r =>
    match letterEscapes.lookup c, numberEscapes.lookup c with
    | some n, _ => .ok ([Char.ofNat n], false, r)
    | none, some count => do
      if r.length < count then .error .malformed
      let x ← charOfNumber (← orMalformed (hexNumber? (r.take count)))
      return ([x.getD (Char.ofNat 0xFFFD)], x.isNone, r.drop count)
    | none, none =>
      if isBreak c then orMalformed ((emptyLines true r).map fun p => (p.1, false, p.2))
      else .error .malformed

/-! ## Scalars -/

/-- The next piece of a scalar, unless it ends here. -/
def nextPiece (double : Bool) (c : Char) (r : List Char) : Except Fault (Option Piece) :=
  if isWhite c || isBreak c then
    (orMalformed (foldedSpace (c :: r))).map fun p => some (p.1, false, p.2)
  else if double && c == '"' then .ok none
  else if double && c == '\\' then (unescape r).map some
  else if !double && c == '\'' then
    .ok (if r.head? == some '\'' then some (['\''], false, r.drop 1) else none)
  else .ok (some ([c], false, r))

/-- The text up to the closing quote, and what follows it; `acc` holds what was read, last character
    first.  Every step takes a character. -/
def unquoteFrom (double : Bool) :
    Nat → List Char → Bool → List Char → Except Fault (Json.Quote × List Char)
  | 0, _, _, _ => .error .malformed
  | _, _, _, [] => .error .malformed
  | fuel + 1, acc, torn, c :: r => do
    match ← nextPiece double c r with
    | none => return (⟨acc.reverse, torn⟩, r)
    | some (cs, missing, t) => unquoteFrom double fuel (cs.reverse ++ acc) (torn || missing) t

/-- The text of a quoted scalar, given the text after its opening quote, and what follows it. -/
def unquote (double : Bool) (s : List Char) : Except Fault (Json.Quote × List Char) :=
  unquoteFrom double (s.length + 1) [] false s

end Muster.Document.Yaml
