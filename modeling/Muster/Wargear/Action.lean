/-
  Actions: what an option lets its models do.

  An option either REPLACES items by a choice or ADDS a choice.  The fifteen rules of `actionRules`
  read the verb phrases, from "can be replaced with one of the following" to "it can have"; the
  kind of an action is the name of the rule that matched.  A rule that offers a list reads it from
  the rest of the sentence or, when the rest is empty, from what follows the first colon.
-/
import Muster.Wargear.Rule

namespace Muster.Wargear

open Text

/-- What an action does. -/
inductive ActionType where
  | replace
  | add
  | unknown
deriving Repr, DecidableEq

/-- What an option lets the targeted models do. -/
structure Action where
  kind : String
  type : ActionType
  removes : List Item
  adds : List Choice
  isChoiceList : Bool
  maxSelections : Option Int
deriving Repr, DecidableEq

/-- The action of a sentence that no rule reads. -/
def Action.unknown : Action := ⟨"unknown", .unknown, [], [], false, none⟩

/-- Whether some rule read the sentence. -/
def Action.isKnown (a : Action) : Bool := a.type != .unknown

/-! ## Readings -/

/-- The group that lists the choices, or else the sentence's list. -/
def listedIn (m : Pattern.Match) (n : Nat) (s : List Char) : List Char :=
  if (m.group n).isEmpty then listText s else m.group n

/-- The single choice of a count in one group and a name in another. -/
def singleChoice (m : Pattern.Match) (count name : Nat) : Except UnreadCount Choice := do
  let n ← readCount (m.group count)
  return ⟨[⟨String.ofList (cleanName (m.group name)), n⟩], false⟩

/-- Items in group 1 give way to a choice from a list that starts in group 2. -/
def replaceWithChoice (kind : String) (m : Pattern.Match) (s : List Char) :
    Except UnreadCount Action := do
  let removes ← readItems (m.group 1)
  let adds ← readChoices (listedIn m 2 s)
  return ⟨kind, .replace, removes, adds, true, none⟩

/-- Items in groups 1 and 2 give way to what group 3 lists. -/
def replaceSeveral (kind : String) (m : Pattern.Match) (_ : List Char) :
    Except UnreadCount Action := do
  let adds ← readChoices (m.group 3)
  let first ← readItems (m.group 1)
  let second ← readItems (m.group 2)
  return ⟨kind, .replace, first ++ second, adds, decide (adds.length > 1), none⟩

/-- Items in group 1 give way to two counted items taken together. -/
def replaceWithPackage (kind : String) (m : Pattern.Match) (_ : List Char) :
    Except UnreadCount Action := do
  let first ← readCount (m.group 2)
  let second ← readCount (m.group 4)
  let package : Choice :=
    ⟨[⟨String.ofList (cleanName (m.group 3)), first⟩,
      ⟨String.ofList (cleanName (m.group 5)), second⟩], true⟩
  let removes ← readItems (m.group 1)
  return ⟨kind, .replace, removes, [package], false, none⟩

/-- Items in group 1 give way to one counted item. -/
def replaceWithSingle (kind : String) (m : Pattern.Match) (_ : List Char) :
    Except UnreadCount Action := do
  let removes ← readItems (m.group 1)
  let choice ← singleChoice m 2 3
  return ⟨kind, .replace, removes, [choice], false, none⟩

/-- One counted item is added. -/
def addSingle (kind : String) (m : Pattern.Match) (_ : List Char) : Except UnreadCount Action := do
  let choice ← singleChoice m 1 2
  return ⟨kind, .add, [], [choice], false, none⟩

/-- One choice of a list that starts in group 1 is added. -/
def addChoice (kind : String) (m : Pattern.Match) (s : List Char) : Except UnreadCount Action := do
  let adds ← readChoices (listedIn m 1 s)
  return ⟨kind, .add, [], adds, true, some 1⟩

/-- Up to as many choices as group 1 says are added, from a list that starts in group 2. -/
def addUpTo (kind : String) (m : Pattern.Match) (s : List Char) : Except UnreadCount Action := do
  let adds ← readChoices (listedIn m 2 s)
  let most ← readCount (m.group 1)
  return ⟨kind, .add, [], adds, true, some most⟩

/-- A choice of the list after the colon is added. -/
def addListed (kind : String) (_ : Pattern.Match) (s : List Char) : Except UnreadCount Action := do
  let adds ← readChoices (listText s)
  return ⟨kind, .add, [], adds, decide (adds.length > 1), none⟩

/-- Items in group 1 give way to what group 2 names or announces. -/
def haveReplaced (kind : String) (m : Pattern.Match) (s : List Char) :
    Except UnreadCount Action := do
  let removes ← readItems (m.group 1)
  if occurs "one of the following".toList (lower (m.group 2)) then
    let adds ← readChoices (listText s)
    return ⟨kind, .replace, removes, adds, true, none⟩
  else
    let adds ← readChoices (m.group 2)
    return ⟨kind, .replace, removes, adds, decide (adds.length > 1), none⟩

/-! ## The table -/

/-- A rule named like the kind of the actions it reads. -/
def action (name : String) (phrase : Option String) (p : Pattern)
    (read : String → Pattern.Match → List Char → Except UnreadCount Action) : Rule Action :=
  ⟨name, phrase, p, read name⟩

/-- Colons and blanks before a list. -/
def listLead : Pattern := .many (fun c => c == ':' || isBlank c) true

/-- Colons, blanks and opening brackets before a list. -/
def openLead : Pattern := .many (fun c => c == ':' || isBlank c || c == '<') true

/-- "one of the following" and the list after it as group `n`. -/
def oneOfFollowing (n : Nat) : Pattern :=
  .text "one of the following" ++ openLead ++ .group n (.many Pattern.anyChar true) ++ .textEnd

/-- "their", or "its", in the order given. -/
def owner (first second : String) : Pattern := .text first <|> .text second

/-- The full stop or the end of the text. -/
def stop : Pattern := .char '.' <|> .textEnd

/-- The full stop or the end of a line. -/
def lineStop : Pattern := .char '.' <|> .lineEnd

/-- A note, a full stop, a footnote mark or the end of the text. -/
def nameStop : Pattern := .blanks ++ .char '(' <|> .char '.' <|> .char '*' <|> .textEnd

/-- The verb phrases of option sentences, most specific first where one begins another. -/
def actionRules : List (Rule Action) :=
  let replaced := some "can be replaced with"
  [action "replace-with-choice" replaced
    (.textStart ++ .passage 1 ++ .gap ++ .text "can be replaced with " ++ oneOfFollowing 2)
    replaceWithChoice,
  action "equip-with-choice" none (.text "can be equipped with " ++ oneOfFollowing 1) addChoice,
  action "equip-up-to" none
    (.text "can be equipped with up to " ++ countAs 1 ++ .text " of the following" ++ openLead
      ++ .group 2 (.many Pattern.anyChar true) ++ .textEnd)
    addUpTo,
  action "equip-with-list" none (.text "can be equipped with" ++ listLead ++ .text "<ul>")
    addListed,
  action "replace-multiple-with" replaced
    (.textStart ++ .passage 1 ++ .gap ++ .text "and" ++ .gap ++ .passage 2 ++ .gap
      ++ .text "can be replaced with" ++ listLead ++ .group 3 (.longest Pattern.anyChar)
      ++ .textEnd)
    replaceSeveral,
  action "replace-with-package" replaced
    (.lineStart ++ .phrase 1 ++ .gap ++ .text "can be replaced with" ++ .gap ++ countAs 2 ++ .gap
      ++ .phrase 3 ++ .gap ++ .text "and" ++ .gap ++ countAs 4 ++ .gap ++ .phrase 5 ++ lineStop)
    replaceWithPackage,
  action "replace-with-single" replaced
    (.lineStart ++ .phrase 1 ++ .gap ++ .text "can be replaced with" ++ .gap ++ countAs 2 ++ .gap
      ++ .phrase 3 ++ lineStop)
    replaceWithSingle,
  action "equip-with-single" none
    (.text "can be equipped with" ++ .gap ++ countAs 1 ++ .gap ++ .phrase 2 ++ nameStop) addSingle,
  action "each-equip-with-single" none
    (.text "can each be equipped with" ++ .gap ++ countAs 1 ++ .gap ++ .phrase 2 ++ nameStop)
    addSingle,
  action "have-replaced-with" none
    (.text "can " ++ .opt (.text "each ") ++ .text "have " ++ owner "their" "its" ++ .gap
      ++ .passage 1 ++ .gap ++ .text "replaced with" ++ .gap ++ .passage 2 ++ stop)
    haveReplaced,
  action "have-token" none
    (.text "it can have" ++ .gap ++ countAs 1 ++ .gap ++ .phrase 2 ++ stop) addSingle,
  action "each-replace-with-choice" none
    (.text "can each replace " ++ owner "their" "its" ++ .gap ++ .passage 1 ++ .gap
      ++ .text "with " ++ oneOfFollowing 2)
    replaceWithChoice,
  action "each-replace-with-single" none
    (.text "can each replace " ++ owner "their" "its" ++ .gap ++ .phrase 1 ++ .gap ++ .text "with"
      ++ .gap ++ countAs 2 ++ .gap ++ .phrase 3 ++ stop)
    replaceWithSingle,
  action "replace-with-choice-active" none
    (.text "can replace " ++ owner "its" "their" ++ .gap ++ .passage 1 ++ .gap ++ .text "with "
      ++ oneOfFollowing 2)
    replaceWithChoice,
  action "replace-with-single-active" none
    (.text "can replace " ++ owner "its" "their" ++ .gap ++ .phrase 1 ++ .gap ++ .text "with"
      ++ .gap ++ countAs 2 ++ .gap ++ .phrase 3 ++ stop)
    replaceWithSingle]

/-- What a text lets its models do. -/
def classifyAction (s : List Char) : Except LongNumeral Action :=
  classify .unknown (sentence s) actionRules

end Muster.Wargear
