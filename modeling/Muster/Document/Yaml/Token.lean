/-
  Tokens of YAML.

  A text is cut into tokens from the left, with two things kept in mind:
    (1) the columns of the open block collections.  A token further left closes those beyond it; an
        entry or a key further right opens one.
    (2) the places where a KEY may have begun.  Only a colon tells that what stands before it was a
        key, so the token of the key, and of a mapping that it opens, are put in afterwards.  A key
        stays on one line and within 1024 characters.
  Brackets and braces open flow collections, within which columns do not count.

  Where a text cannot be cut any further, a BROKEN token says why, and ends the tokens.  Whoever
  reads the tokens may find something else wrong before coming to it.
-/
import Muster.Document.Yaml.Block
import Muster.Document.Yaml.Quoted

namespace Muster.Document.Yaml

open Text

/-- How a scalar is written. -/
inductive Style where
  | plain
  /-- In quotes, or on lines of its own. -/
  | marked
  /-- In quotes, half a surrogate pair being among its characters. -/
  | torn
deriving Repr, DecidableEq

/-- A token. -/
inductive Token where
  /-- The version that the document states, by its major number. -/
  | version (major : Nat)
  /-- A handle for tags and what it stands for. -/
  | tagHandle (handle stem : List Char)
  /-- A directive without meaning here. -/
  | directive
  | documentStart
  | documentEnd
  | textEnd
  | blockSequence
  | blockMapping
  | blockEnd
  | flowSequence
  | flowSequenceEnd
  | flowMapping
  | flowMappingEnd
  /-- A dash before an entry. -/
  | entry
  | comma
  | key
  | value
  | alias (name : List Char)
  | anchor (name : List Char)
  /-- A tag, with its handle if it has one. -/
  | tag (handle : Option (List Char)) (rest : List Char)
  | scalar (text : List Char) (style : Style)
  /-- The text cannot be cut any further. -/
  | broken (f : Fault)
deriving Repr, DecidableEq

/-! ## Names and tags -/

/-- A character of a name. -/
def isNameChar (c : Char) : Bool :=
  isAsciiDigit c || ('a' ≤ c && c ≤ 'z') || ('A' ≤ c && c ≤ 'Z') || c == '-' || c == '_'

/-- A name that is not empty, and what follows it. -/
def readName (s : List Char) : Option (List Char × List Char) :=
  let name := s.takeWhile isNameChar
  if name.isEmpty then none else some (name, s.dropWhile isNameChar)

/-- A handle of tags, between exclamation marks or a single one before a space. -/
def readHandle : List Char → Option (List Char × List Char)
  | '!' :: r =>
    if r.head? == some ' ' then some (['!'], r)
    else match r.dropWhile isNameChar with
      | '!' :: t => some ('!' :: r.takeWhile isNameChar ++ ['!'], t)
      | _ => none
  | _ => none

/-- A character of a tag; a percent sign begins a byte in two hexadecimal digits. -/
def isTagChar (c : Char) : Bool := isNameChar c || ";/?:@&=+$,.!~*'()[]%".contains c

/-- The bytes at the start of a text, each written by a percent sign and two digits. -/
def readBytes : List Char → Option (List UInt8 × List Char)
  | '%' :: a :: b :: r => do
    let m ← Json.hexValue? a
    let n ← Json.hexValue? b
    let (bytes, t) ← readBytes r
    return ((16 * m + n).toUInt8 :: bytes, t)
  | '%' :: _ => none
  | r => some ([], r)

/-- The characters of a tag, with the bytes among them read as UTF-8. -/
def decodeTag : Nat → List Char → Option (List Char)
  | 0, _ => none
  | _, [] => some []
  | fuel + 1, c :: r =>
    if c == '%' then do
      let (bytes, t) ← readBytes (c :: r)
      let text ← String.fromUTF8? ⟨bytes.toArray⟩
      return text.toList ++ (← decodeTag fuel t)
    else (decodeTag fuel r).map (c :: ·)

/-- A tag without its handle, and what follows it. -/
def readTagRest (s : List Char) : Option (List Char × List Char) := do
  let raw := s.takeWhile isTagChar
  if raw.isEmpty then none
  return (← decodeTag (raw.length + 1) raw, s.dropWhile isTagChar)

/-- A tag between angle brackets, given the text after the first of them. -/
def readVerbatimTag (s : List Char) : Option (Token × List Char) := do
  let (name, r) ← readTagRest s
  if r.head? == some '>' then some (.tag none name, r.drop 1) else none

/-- A tag with a handle, which is the single exclamation mark if no other follows in the word. -/
def readHandledTag (s : List Char) : Option (Token × List Char) := do
  let inWord := fun c => !(c == ' ' || isBreak c)
  let (handle, r) ←
    if ((s.drop 1).takeWhile inWord).contains '!' then readHandle s else some (['!'], s.drop 1)
  let (name, t) ← readTagRest r
  some (.tag (some handle) name, t)

/-- A tag, from its exclamation mark on. -/
def readTag (s : List Char) : Option (Token × List Char) :=
  let found := match s.drop 1 with
    | '<' :: r => readVerbatimTag r
    | r => if atWhite r then some (.tag none ['!'], r) else readHandledTag s
  found.filter fun p => atSpace p.2

/-! ## Directives -/

/-- A run of digits, and what follows it. -/
def readDigits (s : List Char) : Option (Nat × List Char) :=
  let ds := s.takeWhile isAsciiDigit
  if ds.isEmpty then none else some (decimalValue ds, s.dropWhile isAsciiDigit)

/-- A directive, given the text after its percent sign, and the text from the next line on. -/
def readDirective (s : List Char) : Option (Token × List Char) := do
  let (name, r) ← readName s
  if !atSpace r then none
  let (token, r) ←
    if name == "YAML".toList then do
      let (major, t) ← readDigits (r.dropWhile (· == ' '))
      match t with
      | '.' :: u => do
        let (_, v) ← readDigits u
        if atSpace v then some (Token.version major, v) else none
      | _ => none
    else if name == "TAG".toList then do
      let (handle, t) ← readHandle (r.dropWhile (· == ' '))
      if t.head? != some ' ' then none
      let (stem, u) ← readTagRest (t.dropWhile (· == ' '))
      if atSpace u then some (.tagHandle handle stem, u) else none
    else some (.directive, r.dropWhile (!isBreak ·))
  return (token, ← afterComment r)

/-! ## Plain scalars -/

/-- A character that cannot begin a plain scalar. -/
def isIndicator (c : Char) : Bool := "-?:,[]\x7b\x7d#&*!|>'\"%@`".contains c

/-- Whether a plain scalar begins here. -/
def beginsPlain (flow : Bool) : List Char → Bool
  | [] => false
  | c :: r =>
    if isWhite c || isBreak c then false
    else if isIndicator c then
      !atWhite r && (c == '-' || (!flow && (c == '?' || c == ':')))
    else true

/-- Whether a word of a plain scalar ends here. -/
def endsPlain (flow : Bool) : List Char → Bool
  | [] => true
  | c :: r =>
    isWhite c || isBreak c
      || (c == ':' && (atWhite r || (flow && ",[]\x7b\x7d".contains (r.headD ' '))))
      || (flow && ",?[]\x7b\x7d".contains c)

/-- A word of a plain scalar, and what follows it. -/
def plainWord (flow : Bool) : List Char → List Char × List Char
  | [] => ([], [])
  | c :: r =>
    if endsPlain flow (c :: r) then ([], c :: r)
    else
      let (w, t) := plainWord flow r
      (c :: w, t)

/-- The breaks of the empty lines between words of a plain scalar, and the text from the next word
    on; no breaks at all if a line separates documents there. -/
def plainLines : Bool → List Char → Option (List Char) × List Char
  | _, [] => (some [], [])
  | fresh, c :: r =>
    if fresh && atSeparator (c :: r) then (none, c :: r)
    else if c == ' ' then plainLines false r
    else if isBreak c then
      let (bs, t) := plainLines true r
      (bs.map (keptBreak c :: ·), t)
    else (some [], c :: r)

/-- What the space between two words of a plain scalar comes to, empty if the scalar ends there;
    whether it runs over a line break; and the text after it. -/
def plainSpace (s : List Char) : List Char × Bool × List Char :=
  match s.dropWhile (· == ' ') with
  | [] => (s, false, [])
  | c :: r =>
    if isBreak c then
      match plainLines true r with
      | (some bs, t) => (joint c bs, true, t)
      | (none, t) => ([], true, t)
    else (s.takeWhile (· == ' '), false, c :: r)

/-- A plain scalar from its first word on; `least` is the column that its lines must reach.  Besides
    the text it tells whether a line break follows it, and where it stands afterwards; every step
    takes a word. -/
def plainFrom (flow : Bool) (least : Nat) : Nat → Cursor → List Char × Bool × Cursor
  | 0, c => ([], false, c)
  | fuel + 1, c =>
    let (word, r) := plainWord flow c.rest
    let (space, crossed, t) := plainSpace r
    let c := c.upTo t
    let goesOn := !space.isEmpty && t.head? != some '#' && (flow || least ≤ c.column)
      && !endsPlain flow t
    if goesOn then
      let (text, more) := plainFrom flow least fuel c
      (word ++ space ++ text, more)
    else (word, crossed, c)

/-! ## Where keys may begin -/

/-- A place where a key may have begun. -/
structure Candidate where
  /-- The number of tokens before it. -/
  position : Nat
  /-- Whether nothing but a key can stand there. -/
  required : Bool
  index : Nat
  line : Nat
  column : Nat

/-- The state between two tokens. -/
structure Scan where
  cursor : Cursor
  /-- The number of flow collections that are open. -/
  depth : Nat
  /-- The columns of the open block collections, innermost first. -/
  indents : List Nat
  /-- Whether a key may begin here. -/
  keyAllowed : Bool
  /-- By depth. -/
  candidates : List (Nat × Candidate)
  /-- The number of tokens. -/
  count : Nat
  /-- The tokens so far, last first. -/
  tokens : List Token

namespace Scan

/-- The state before a text. -/
def start (s : List Char) : Scan := ⟨.start s, 0, [], true, [], 0, []⟩

/-- Whether a flow collection is open. -/
def inFlow (s : Scan) : Bool := s.depth > 0

/-- Adds a token. -/
def emit (t : Token) (s : Scan) : Scan := { s with tokens := t :: s.tokens, count := s.count + 1 }

/-- Goes to where only `rest` remains. -/
def goTo (rest : List Char) (s : Scan) : Scan := { s with cursor := s.cursor.upTo rest }

/-- Allows or forbids a key to begin here. -/
def allow (ok : Bool) (s : Scan) : Scan := { s with keyAllowed := ok }

/-- Whether a key can no longer reach from a candidate to here. -/
def isStale (s : Scan) (p : Nat × Candidate) : Bool :=
  p.2.line != s.cursor.line || s.cursor.index - p.2.index > 1024

/-- Gives up the candidates that a key can no longer reach from. -/
def dropStale (s : Scan) : Option Scan :=
  if s.candidates.any fun p => s.isStale p && p.2.required then none
  else some { s with candidates := s.candidates.filter (!s.isStale ·) }

/-- Gives up the candidate of this depth. -/
def dropCandidate (s : Scan) : Option Scan :=
  match s.candidates.lookup s.depth with
  | none => some s
  | some k =>
    if k.required then none
    else some { s with candidates := s.candidates.filter (·.1 != s.depth) }

/-- Notes that a key may begin here. -/
def noteCandidate (s : Scan) : Option Scan :=
  if s.keyAllowed then do
    let s ← s.dropCandidate
    let c := s.cursor
    let required := !s.inFlow && s.indents.head? == some c.column
    some { s with candidates :=
      (s.depth, ⟨s.count, required, c.index, c.line, c.column⟩) :: s.candidates }
  else some s

/-- Closes the block collections for which a condition holds of their column, from the innermost. -/
def close (gone : Nat → Bool) (s : Scan) : Scan :=
  if s.inFlow then s
  else
    let closed := s.indents.takeWhile gone
    closed.foldl (fun s _ => s.emit .blockEnd) { s with indents := s.indents.dropWhile gone }

/-- Whether a column lies beyond all open block collections. -/
def isDeeper (column : Nat) (s : Scan) : Bool :=
  match s.indents with
  | [] => true
  | i :: _ => i < column

/-- Opens a block collection at a column beyond all open ones. -/
def openBlock (column : Nat) (t : Token) (s : Scan) : Scan :=
  if !s.inFlow && s.isDeeper column then { s.emit t with indents := column :: s.indents } else s

/-! ## One token -/

/-- The text after blanks, line breaks and comments, and whether a line break was among them. -/
def skipGap : Bool → Bool → List Char → Bool × List Char
  | _, crossed, [] => (crossed, [])
  | comment, crossed, c :: r =>
    if isBreak c then skipGap false true r
    else if comment || c == ' ' then skipGap comment crossed r
    else if c == '#' then skipGap true crossed r
    else (crossed, c :: r)

/-- Goes to the next token; in a new line a key may begin. -/
def toToken (s : Scan) : Scan :=
  let rest := if s.cursor.index == 0 && s.cursor.rest.head? == some (Char.ofNat 0xFEFF)
    then s.cursor.rest.drop 1 else s.cursor.rest
  let (crossed, rest) := skipGap false false rest
  (s.goTo rest).allow (s.keyAllowed || (crossed && !s.inFlow))

/-- A token of one or more characters that begins no key. -/
def mark (n : Nat) (t : Token) (s : Scan) : Scan :=
  { s with cursor := s.cursor.skip n }.emit t

/-- A token that belongs to the document as a whole. -/
def atMargin (s : Scan) : Option Scan := do
  let s ← (s.close fun _ => true).dropCandidate
  return s.allow false

/-- A bracket or brace that opens a flow collection. -/
def openFlow (t : Token) (s : Scan) : Option Scan := do
  let s ← s.noteCandidate
  return ({ s with depth := s.depth + 1 }.allow true).mark 1 t

/-- A bracket or brace that closes a flow collection. -/
def closeFlow (t : Token) (s : Scan) : Option Scan := do
  if !s.inFlow then none
  let s ← s.dropCandidate
  return ({ s with depth := s.depth - 1 }.allow false).mark 1 t

/-- A comma. -/
def readComma (s : Scan) : Option Scan := do
  let s ← (s.allow true).dropCandidate
  return s.mark 1 .comma

/-- A dash before an entry. -/
def readEntry (s : Scan) : Option Scan := do
  if !s.inFlow && !s.keyAllowed then none
  let s ← ((s.openBlock s.cursor.column .blockSequence).allow true).dropCandidate
  return s.mark 1 .entry

/-- A question mark before a key. -/
def readKey (s : Scan) : Option Scan := do
  if !s.inFlow && !s.keyAllowed then none
  let s ← ((s.openBlock s.cursor.column .blockMapping).allow (!s.inFlow)).dropCandidate
  return s.mark 1 .key

/-- Puts in the tokens before a key that began earlier. -/
def insertKey (k : Candidate) (s : Scan) : Scan :=
  let opens := !s.inFlow && s.isDeeper k.column
  let put := if opens then [.key, .blockMapping] else [.key]
  let later := s.count - k.position
  { s with
    tokens := s.tokens.take later ++ put ++ s.tokens.drop later
    count := s.count + put.length
    indents := if opens then k.column :: s.indents else s.indents
    candidates := s.candidates.filter (·.1 != s.depth) }

/-- A colon before a value. -/
def readValue (s : Scan) : Option Scan := do
  match s.candidates.lookup s.depth with
  | some k => return ((s.insertKey k).allow false).mark 1 .value
  | none =>
    if !s.inFlow && !s.keyAllowed then none
    let s := s.openBlock s.cursor.column .blockMapping
    return (s.allow (!s.inFlow)).mark 1 .value

/-- A token that may begin a key, read by a function from the text here. -/
def readPart (read : List Char → Option (Token × List Char)) (s : Scan) : Option Scan := do
  let s ← s.noteCandidate
  let (t, r) ← read s.cursor.rest
  return ((s.allow false).goTo r).emit t

/-- The name of an anchor or an alias after its mark. -/
def readReference (make : List Char → Token) (r : List Char) : Option (Token × List Char) := do
  let (name, t) ← readName (r.drop 1)
  if atWhite t || "?:,]\x7d%@`".contains (t.headD ' ') then some (make name, t) else none

/-- A block scalar. -/
def readBlockScalar (folded : Bool) (s : Scan) : Option Scan := do
  let s ← (s.allow true).dropCandidate
  let least := match s.indents with
    | [] => 1
    | i :: _ => i + 1
  let (text, r) ← readBlock folded least (s.cursor.rest.drop 1)
  return (s.goTo r).emit (.scalar text .marked)

/-- A plain scalar. -/
def readPlain (s : Scan) : Option Scan := do
  let s ← s.noteCandidate
  let least := match s.indents with
    | [] => 0
    | i :: _ => i + 1
  let (text, crossed, c) := plainFrom s.inFlow least (s.cursor.rest.length + 1) s.cursor
  return ({ s with cursor := c }.allow crossed).emit (.scalar text .plain)

/-- A quoted scalar. -/
def readQuoted (double : Bool) (s : Scan) : Except Fault Scan := do
  let s ← orMalformed s.noteCandidate
  let (q, r) ← unquote double (s.cursor.rest.drop 1)
  return ((s.allow false).goTo r).emit (.scalar q.text (if q.torn then .torn else .marked))

/-- The end of the text. -/
def finish (s : Scan) : Option Scan := do
  let s ← (s.close fun _ => true).dropCandidate
  return s.emit .textEnd

/-- The next token, a text standing here that is neither blank nor quoted. -/
def readUnquoted (s : Scan) : Option Scan :=
  let rest := s.cursor.rest
  let after := rest.drop 1
  let margin := s.cursor.column == 0
  match rest.headD ' ' with
  | '[' => s.openFlow .flowSequence
  | '\x7b' => s.openFlow .flowMapping
  | ']' => s.closeFlow .flowSequenceEnd
  | '\x7d' => s.closeFlow .flowMappingEnd
  | ',' => s.readComma
  | '*' => s.readPart (readReference .alias)
  | '&' => s.readPart (readReference .anchor)
  | '!' => s.readPart readTag
  | c =>
    if c == '%' && margin then do
      let s ← s.atMargin
      let (t, r) ← readDirective after
      return (s.goTo r).emit t
    else if margin && atDashes rest then s.atMargin.map (mark 3 .documentStart)
    else if margin && atDots rest then s.atMargin.map (mark 3 .documentEnd)
    else if c == '-' && atWhite after then s.readEntry
    else if c == '?' && (s.inFlow || atWhite after) then s.readKey
    else if c == ':' && (s.inFlow || atWhite after) then s.readValue
    else if c == '|' && !s.inFlow then s.readBlockScalar false
    else if c == '>' && !s.inFlow then s.readBlockScalar true
    else if beginsPlain s.inFlow rest then s.readPlain
    else none

/-- The next token, a text standing here that is not blank. -/
def readToken (s : Scan) : Except Fault Scan :=
  match s.cursor.rest.headD ' ' with
  | '\'' => s.readQuoted false
  | '"' => s.readQuoted true
  | _ => orMalformed s.readUnquoted

/-- The state after the next token; at the end of the text that token says so. -/
def step (s : Scan) : Except Fault Scan := do
  let s ← orMalformed s.toToken.dropStale
  let s := s.close (s.cursor.column < ·)
  if s.cursor.rest.isEmpty then orMalformed s.finish else s.readToken

/-- The tokens of a text that cannot be cut any further.  A token is settled only when it is known
    whether a key begins there, so the place of the first candidate is where the text breaks. -/
def cut (f : Fault) (s : Scan) : List Token :=
  let awaited := (s.candidates.filter (!s.isStale ·)).map fun p => p.2.position
  (s.tokens.reverse.take (awaited.foldl min s.count)) ++ [.broken f]

/-- The tokens from a state on; every step but the last takes a character. -/
def run : Nat → Scan → List Token
  | 0, s => s.cut .malformed
  | fuel + 1, s =>
    match s.step with
    | .error f => s.cut f
    | .ok t => if t.tokens.head? == some .textEnd then t.tokens.reverse else run fuel t

end Scan

/-- The tokens of a text. -/
def tokens (s : List Char) : List Token := (Scan.start s).run (s.length + 1)

end Muster.Document.Yaml
