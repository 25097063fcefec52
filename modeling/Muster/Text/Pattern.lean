/-
  Patterns over rule text, and the first way in which a pattern matches.

  A PATTERN is a tree of pieces: single characters of a class, runs of them, sequences, ordered
  alternatives, numbered groups, the two ends of a text or of a line, and a look ahead.  A run is
  EAGER (as long as it can be) or LAZY (as short as it can be).  Only single characters are ever
  repeated, so a run is a recursion on the text itself and matching needs no measure.

  What a text means depends on WHICH match is found, not only on whether there is one: the model
  name in "The Sergeant's bolt pistol" is the shortest run before a possessive.  So `run` tries the
  ways of matching in a fixed order and gives the continuation the first that it accepts:
    (1) of two alternatives, the left one first;
    (2) of an eager run, the longest first; of a lazy run, the shortest first;
    (3) of a sequence, all ways of the rest before the next way of the first piece.

  Letters of a pattern ignore case.  Beyond the twenty-six ASCII pairs the dotted and the dotless
  `i`, the long `s` and the Kelvin sign agree with `i`, `s` and `k`.
-/
import Muster.Text.Blank
import Muster.Text.Digit
import Muster.Text.Alphanumeric

namespace Muster.Text

/-! ## Letters without case -/

/-- The ASCII letter that stands for a character when case is ignored; other characters stand for
    themselves. -/
def foldChar (c : Char) : Char :=
  if 'A' ≤ c && c ≤ 'Z' then Char.ofNat (c.toNat + 32)
  else if c.toNat < 0x80 then c
  else if c.toNat == 0x130 || c.toNat == 0x131 then 'i'
  else if c.toNat == 0x17F then 's'
  else if c.toNat == 0x212A then 'k'
  else c

/-! ## Patterns -/

/-- A pattern over text. -/
inductive Pattern where
  /-- The empty text. -/
  | empty
  /-- One character of a class. -/
  | one (ok : Char → Bool)
  /-- A run of characters of a class, possibly empty. -/
  | many (ok : Char → Bool) (eager : Bool)
  /-- One pattern after the other. -/
  | seq (p q : Pattern)
  /-- The first pattern or else the second. -/
  | alt (p q : Pattern)
  /-- A pattern whose text is remembered under a number. -/
  | group (n : Nat) (p : Pattern)
  /-- The start of the text. -/
  | textStart
  /-- The end of the text, or the place before a line break that ends it. -/
  | textEnd
  /-- The start of a line. -/
  | lineStart
  /-- The end of a line. -/
  | lineEnd
  /-- What follows here matches; nothing is consumed. -/
  | ahead (p : Pattern)

namespace Pattern

instance : Append Pattern := ⟨seq⟩
instance : OrElse Pattern := ⟨fun p q => alt p (q ())⟩

/-! ## Matching -/

/-- Where matching stands in a text: the character before, the text that remains, and the groups
    closed so far, latest first, each as the texts that remained at its two ends. -/
structure Place where
  before : Option Char
  rest : List Char
  groups : List (Nat × List Char × List Char)

/-- Tries the ways of a run from here: the longest first if it is eager, else the shortest. -/
def runMany {α : Type} (ok : Char → Bool) (eager : Bool)
    (groups : List (Nat × List Char × List Char)) (k : Place → Option α) :
    Option Char → List Char → Option α
  | b, [] => k ⟨b, [], groups⟩
  | b, c :: r =>
    if eager then
      match if ok c then runMany ok eager groups k (some c) r else none with
      | some a => some a
      | none => k ⟨b, c :: r, groups⟩
    else
      match k ⟨b, c :: r, groups⟩ with
      | some a => some a
      | none => if ok c then runMany ok eager groups k (some c) r else none

/-- Whether a place is the start of a line. -/
def Place.startsLine (s : Place) : Bool :=
  match s.before with
  | none => true
  | some c => c == '\n'

/-- Gives the continuation the places where the pattern may end, in order, until it accepts one. -/
def run {α : Type} : Pattern → Place → (Place → Option α) → Option α
  | empty, s, k => k s
  | one ok, s, k =>
    match s.rest with
    | [] => none
    | c :: r => if ok c then k ⟨some c, r, s.groups⟩ else none
  | many ok eager, s, k => runMany ok eager s.groups k s.before s.rest
  | seq p q, s, k => p.run s fun t => q.run t k
  | alt p q, s, k =>
    match p.run s k with
    | some a => some a
    | none => q.run s k
  | group n p, s, k => p.run s fun t => k ⟨t.before, t.rest, (n, s.rest, t.rest) :: t.groups⟩
  | textStart, s, k => if s.before.isNone then k s else none
  | textEnd, s, k => if s.rest.isEmpty || s.rest == ['\n'] then k s else none
  | lineStart, s, k => if s.startsLine then k s else none
  | lineEnd, s, k => if s.rest.isEmpty || s.rest.head? == some '\n' then k s else none
  | ahead p, s, k => match p.run s fun _ => some () with
    | some _ => k s
    | none => none

/-! ## Matches -/

/-- The text between two places, given by what remains at each. -/
def between (start stop : List Char) : List Char := start.take (start.length - stop.length)

/-- A match, given by the texts that remain at its start and at its end. -/
structure Match where
  start : List Char
  stop : List Char
  groups : List (Nat × List Char × List Char)

/-- The number of characters matched. -/
def Match.length (m : Match) : Nat := m.start.length - m.stop.length

/-- The text of a group, if the match went through it. -/
def Match.group? (m : Match) (n : Nat) : Option (List Char) :=
  (m.groups.lookup n).map fun g => between g.1 g.2

/-- The text of a group, empty if the match did not go through it. -/
def Match.group (m : Match) (n : Nat) : List Char := (m.group? n).getD []

/-- The first match that starts exactly here. -/
def matchAt (p : Pattern) (before : Option Char) (s : List Char) : Option Match :=
  p.run ⟨before, s, []⟩ fun t => some ⟨s, t.rest, t.groups⟩

/-- The first match at the start of a text. -/
def matchStart (p : Pattern) (s : List Char) : Option Match := p.matchAt none s

/-- The first match at the earliest place from here on. -/
def findFrom (p : Pattern) : Option Char → List Char → Option Match
  | b, [] => p.matchAt b []
  | b, c :: r =>
    match p.matchAt b (c :: r) with
    | some m => some m
    | none => p.findFrom (some c) r

/-- The first match at the earliest place of a text. -/
def find (p : Pattern) (s : List Char) : Option Match := p.findFrom none s

/-- Whether a pattern matches somewhere in a text. -/
def occursIn (p : Pattern) (s : List Char) : Bool := (p.find s).isSome

/-- The matches from here on that do not overlap, from the left; the first `skip` characters belong
    to the match before. -/
def findAllFrom (p : Pattern) : Nat → Option Char → List Char → List Match
  | _, b, [] => (p.matchAt b []).toList
  | skip + 1, _, c :: r => p.findAllFrom skip (some c) r
  | 0, b, c :: r =>
    match p.matchAt b (c :: r) with
    | some m => m :: p.findAllFrom (m.length - 1) (some c) r
    | none => p.findAllFrom 0 (some c) r

/-- The matches of a text that do not overlap, from the left. -/
def findAll (p : Pattern) (s : List Char) : List Match := p.findAllFrom 0 none s

/-- Cuts a text from here on at the matches; `piece` is the piece so far, last character first. -/
def splitFrom (p : Pattern) : Nat → List Char → Option Char → List Char → List (List Char)
  | _, piece, _, [] => [piece.reverse]
  | skip + 1, piece, _, c :: r => p.splitFrom skip piece (some c) r
  | 0, piece, b, c :: r =>
    match p.matchAt b (c :: r) with
    | some m =>
      if m.length == 0 then p.splitFrom 0 (c :: piece) (some c) r
      else piece.reverse :: p.splitFrom (m.length - 1) [] (some c) r
    | none => p.splitFrom 0 (c :: piece) (some c) r

/-- The pieces of a text between the matches of a separator. -/
def split (p : Pattern) (s : List Char) : List (List Char) := p.splitFrom 0 [] none s

/-- A text with each match replaced. -/
def replaceAll (p : Pattern) (image s : List Char) : List Char := image.intercalate (p.split s)

/-- A text without the match at its start, if there is one. -/
def dropStart (p : Pattern) (s : List Char) : List Char :=
  match p.matchStart s with
  | some m => m.stop
  | none => s

/-! ## Pieces of rule text -/

/-- A literal character; case is ignored. -/
def char (c : Char) : Pattern := one fun d => foldChar d == foldChar c

/-- A literal text; case is ignored. -/
def textOf : List Char → Pattern
  | [] => empty
  | [c] => char c
  | c :: r => char c ++ textOf r

/-- A literal text; case is ignored. -/
def text (s : String) : Pattern := textOf s.toList

/-- A pattern or nothing. -/
def opt (p : Pattern) : Pattern := alt p empty

/-- The first alternative that matches. -/
def firstOf : List Pattern → Pattern
  | [] => empty
  | [p] => p
  | p :: ps => alt p (firstOf ps)

/-- One or more characters of a class, as many as possible. -/
def longest (ok : Char → Bool) : Pattern := one ok ++ many ok true

/-- One or more characters of a class, as few as possible. -/
def shortest (ok : Char → Bool) : Pattern := one ok ++ many ok false

/-- One or more blanks. -/
def gap : Pattern := longest isBlank

/-- Blanks, possibly none. -/
def blanks : Pattern := many isBlank true

/-- Any character of the same line. -/
def inLine (c : Char) : Bool := c != '\n'

/-- Any character. -/
def anyChar (_ : Char) : Bool := true

/-- A character of a name: part of a word, or blank. -/
def inName (c : Char) : Bool := isWordChar c || isBlank c

/-- A name as group `n`, as short as possible. -/
def name (n : Nat) : Pattern := group n (shortest inName)

/-- A phrase within a line as group `n`, as short as possible. -/
def phrase (n : Nat) : Pattern := group n (shortest inLine)

/-- A phrase that may run over lines as group `n`, as short as possible. -/
def passage (n : Nat) : Pattern := group n (shortest anyChar)

end Pattern

end Muster.Text
