/-
  Items and choices: the weapons that an option line takes away and the lists it offers.

  (1) **An item** is a name with a count.  Its name is CLEANED: notes in parentheses, trailing
      punctuation and a leading numeral are taken off, and blanks are squeezed.
  (2) **Items taken away** are joined by "and"; a possessive such as "This model's" or "2 Gunner's"
      before a name belongs to the sentence and not to the name.
  (3) **A choice** is one entry of the list that an option offers.  An entry that holds several
      items joined by "and" is a PACKAGE: they are taken together.
  (4) **A list of choices** has three written forms, tried in this order: marked-up list entries,
      a run "1 X 1 Y" in which each numeral starts an entry, and entries between commas or
      semicolons.

  Every reading may stumble over a token that looks like a count and cannot be read as one
  (`UnreadCount`); the first such token of a text is the one reported.
-/
import Muster.Wargear.Count

namespace Muster.Wargear

open Text

/-- An item named in rule text, with the count the text gives it. -/
structure Item where
  name : String
  count : Int
deriving Repr, DecidableEq

/-- One entry of a list of choices; a package bundles several items. -/
structure Choice where
  items : List Item
  isPackage : Bool
deriving Repr, DecidableEq

/-! ## Names -/

/-- A note in parentheses with the blanks around it. -/
def note : Pattern :=
  .blanks ++ .char '(' ++ .many Pattern.inLine false ++ .char ')' ++ .blanks

/-- A numeral at the start of a name. -/
def leadingNumeral : Pattern := .blanks ++ .longest isDecimal ++ .gap

/-- Punctuation that ends a name. -/
def endsName (c : Char) : Bool := ".,;:*".toList.contains c || isBlank c

/-- A name without notes, trailing punctuation and leading numeral, its blanks squeezed. -/
def cleanName (s : List Char) : List Char :=
  squeeze (leadingNumeral.dropStart (dropEndWhile endsName (note.replaceAll [' '] s)))

/-- A model name in the possessive, with the gap after it. -/
def possessor : Pattern := .shortest Pattern.inName ++ .text "'s" ++ .gap

/-- The possessives that may open a sentence, in the order in which they are taken off. -/
def possessives : List Pattern := [
  .text "for every " ++ countAs 1 ++ .text " models in " ++ (.text "this" <|> .text "the")
    ++ .text " unit" ++ .opt (.char ',') ++ .gap ++ countAs 2 ++ .gap ++ possessor,
  .text "this model's" ++ .gap,
  .text "the" ++ .gap ++ possessor,
  .text "each" ++ .gap ++ possessor,
  countAs 1 ++ .gap ++ possessor]

/-- A phrase without the possessives before it. -/
def dropPossessives (s : List Char) : List Char := possessives.foldl (fun t p => p.dropStart t) s

/-! ## Items -/

/-- A text that may have a count before it: groups 1 and 2. -/
def perhapsCounted : Pattern :=
  .opt (countAs 1 ++ .gap) ++ .group 2 (.longest Pattern.anyChar) ++ .textEnd

/-- An item with or without a count before it; none if no name is left after cleaning. -/
def readItem (s : List Char) : Except UnreadCount (Option Item) :=
  match perhapsCounted.matchStart s with
  | none => .ok none
  | some m =>
    let name := cleanName (m.group 2)
    if name.isEmpty then .ok none
    else match m.group 1 with
      | [] => .ok (some ⟨String.ofList name, 1⟩)
      | token => do
        let n ← readCount token
        return some ⟨String.ofList name, n⟩

/-- The word "and" between two names. -/
def conjunction : Pattern := .gap ++ .text "and" ++ .gap

/-- The items that an option takes away. -/
def readItems (s : List Char) : Except UnreadCount (List Item) := do
  let parts := conjunction.split (dropPossessives (trim s))
  let found ← parts.mapM fun part => readItem (dropPossessives (trim part))
  return found.filterMap id

/-! ## Choices -/

/-- One item of a package, which keeps the entry's count if it is the first and has none itself. -/
def packageItem (count : Int) (index : Nat) (part : List Char) : Except UnreadCount (Option Item) :=
  match countedText.matchStart part with
  | some m => do
    let n ← readCount (m.group 1)
    return some ⟨String.ofList (cleanName (m.group 2)), n⟩
  | none =>
    let name := cleanName part
    if name.isEmpty then .ok none
    else .ok (some ⟨String.ofList name, if index == 0 then count else 1⟩)

/-- One entry of a list of choices. -/
def readChoice (count : Int) (s : List Char) : Except UnreadCount (Option Choice) :=
  if occurs " and ".toList (lower s) then do
    let found ← (conjunction.split s).zipIdx.mapM fun p => packageItem count p.2 (trim p.1)
    let items := found.filterMap id
    return if items.isEmpty then none else some ⟨items, true⟩
  else
    let name := cleanName s
    .ok (if name.isEmpty then none else some ⟨[⟨String.ofList name, count⟩], false⟩)

/-- A marked-up list entry, its text as group 1. -/
def listEntry : Pattern :=
  .text "<li>" ++ .group 1 (.longest (· != '<')) ++ .text "</li>"

/-- A numeral and the words after it up to the next numeral or the end: groups 1 and 2. -/
def numberedEntry : Pattern :=
  .group 1 (.longest isDecimal) ++ .gap ++ .group 2 (.shortest fun c => !isAsciiDigit c)
    ++ .ahead ((.gap ++ .longest isDecimal ++ .gap) <|> (.blanks ++ .textEnd))

/-- The choices among marked-up list entries; an entry without a count is not one. -/
def readListEntries (s : List Char) : Except UnreadCount (List Choice) := do
  let found ← (listEntry.findAll s).mapM fun entry =>
    match countedText.matchStart (trim (entry.group 1)) with
    | none => Except.ok none
    | some m => do
      let n ← readCount (m.group 1)
      readChoice n (trim (m.group 2))
  return found.filterMap id

/-- The choices of a run in which each numeral starts an entry. -/
def readNumberedEntries (s : List Char) : Except UnreadCount (List Choice) := do
  let found ← (numberedEntry.findAll s).mapM fun entry => do
    let n ← readCount (entry.group 1)
    readChoice n (trim (entry.group 2))
  return found.filterMap id

/-- The choices between commas or semicolons. -/
def readSeparatedEntries (s : List Char) : Except UnreadCount (List Choice) := do
  let found ← (splitWhere (fun c => c == ',' || c == ';') s).mapM fun part => readItem (trim part)
  return (found.filterMap id).map fun i => ⟨[i], false⟩

/-- The choices of a text without markup: a run of numbered entries, or else separated ones. -/
def readPlainChoices (s : List Char) : Except UnreadCount (List Choice) := do
  let numbered ← readNumberedEntries s
  if numbered.isEmpty then readSeparatedEntries s else return numbered

/-- The choices that a text lists, in whichever form it lists them. -/
def readChoices (s : List Char) : Except UnreadCount (List Choice) := do
  let t := trim s
  if t.isEmpty then return []
  else if occurs "<li>".toList (lower t) then
    let listed ← readListEntries t
    if listed.isEmpty then readPlainChoices (trim (replaceTags [' '] t)) else return listed
  else readPlainChoices t

/-- What stands after the word "following" when a text has no colon. -/
def followingText : Pattern :=
  .text "following" ++ .many (fun c => c == ':' || isBlank c) true
    ++ .group 1 (.longest Pattern.anyChar) ++ .textEnd

/-- The part of a sentence that lists the choices: what follows its first colon, or else what
    follows the word "following". -/
def listText (s : List Char) : List Char :=
  if s.contains ':' then trim ((s.dropWhile (· != ':')).drop 1)
  else match followingText.find s with
    | some m => m.group 1
    | none => []

end Muster.Wargear
