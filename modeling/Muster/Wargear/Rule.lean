/-
  Ordered tables of rules that classify a sentence.

  A rule is a named pattern with a reading of its match.  A table is tried from the top, and the
  FIRST rule whose pattern matches classifies the sentence, so the order of a table is part of its
  meaning: several patterns are beginnings of others.  Three things can happen at a rule:
    (1) the pattern does not match: the next rule is tried;
    (2) it matches and its counts can be read: that is the classification;
    (3) it matches and a count cannot be read: the sentence stays unclassified, and NO later, less
        specific rule is tried.  Only a numeral too long to be read is an error.

  A rule may name a phrase that its pattern needs anyway; a sentence without the phrase is turned
  away before the pattern runs, which keeps long conjunctions cheap.
-/
import Muster.Wargear.Item

namespace Muster.Wargear

open Text

/-- A named pattern with the reading of its match in the whole sentence. -/
structure Rule (α : Type) where
  name : String
  phrase : Option String
  pattern : Pattern
  read : Pattern.Match → List Char → Except UnreadCount α

/-- Whether a sentence holds the phrase that a rule needs, if it needs one. -/
def Rule.admits {α : Type} (r : Rule α) (s : List Char) : Bool :=
  match r.phrase with
  | none => true
  | some p => occurs p.toList (lower s)

/-- What a rule makes of a sentence; nothing if it does not match. -/
def Rule.apply {α : Type} (r : Rule α) (s : List Char) : Except UnreadCount (Option α) :=
  if r.admits s then
    match r.pattern.find s with
    | none => .ok none
    | some m => (r.read m s).map some
  else .ok none

/-- The classification by the first rule that matches, `fallback` if there is none or a token in
    place of a count is none. -/
def classify {α : Type} (fallback : α) (s : List Char) : List (Rule α) → Except LongNumeral α
  | [] => .ok fallback
  | r :: rs =>
    match r.apply s with
    | .error (.noCount _) => .ok fallback
    | .error (.longNumeral e) => .error e
    | .ok (some a) => .ok a
    | .ok none => classify fallback s rs

/-- Typographic quotes as ASCII ones. -/
def plainQuote (c : Char) : Char :=
  if c.toNat == 0x2018 || c.toNat == 0x2019 then '\''
  else if c.toNat == 0x201C || c.toNat == 0x201D then '"'
  else c

/-- A text with ASCII quotes. -/
def plainQuotes (s : List Char) : List Char := s.map plainQuote

/-- A sentence in the form that the tables are written for. -/
def sentence (s : List Char) : List Char := trim (plainQuotes s)

end Muster.Wargear
