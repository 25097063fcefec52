/-
  Constraints: the restrictions that an option's text may state.

  Targeting and action each take the first rule that matches; constraints are different, for all
  that a sentence states hold together.  A limit whose count is none is dropped, and only that one;
  a count too long to be read is an error.
-/
import Muster.Wargear.Rule

namespace Muster.Wargear

open Text

/-- At most `max` of an item. -/
structure ItemLimit where
  weapon : String
  max : Int
deriving Repr, DecidableEq

/-- The restrictions written into an option's text. -/
structure Constraints where
  restrictedWeapons : List String
  mutuallyExclusive : List (String × String)
  maxWeaponCount : List ItemLimit
  excludedWeapons : List String
  noDuplicates : Bool
  allowDuplicates : Bool
  mustBeDifferent : Bool
  maxSelections : Option Int
deriving Repr, DecidableEq

/-- No restriction. -/
def Constraints.none : Constraints := ⟨[], [], [], [], false, false, false, .none⟩

/-! ## Patterns -/

/-- An article, if there is one. -/
def article : Pattern := .opt (.text "a " <|> .text "an ")

/-- The full stop, a comma or the end of the text. -/
def clauseStop : Pattern := .char '.' <|> .char ',' <|> .textEnd

/-- A weapon that a note keeps from being replaced, as group 1. -/
def restrictedWeapon : Pattern :=
  .text "(that model" ++ .opt (.char '\'') ++ .opt (.char 's') ++ .gap ++ .phrase 1 ++ .gap
    ++ .text "cannot be replaced)"

/-- Two weapons that exclude each other, as groups 1 and 2. -/
def exclusivePair : Pattern :=
  .text "cannot be equipped with both " ++ article ++ .phrase 1 ++ .text " and " ++ article
    ++ .phrase 2 ++ clauseStop

/-- A count and the weapon it limits, as groups 1 and 2. -/
def weaponLimit : Pattern :=
  .text "cannot be equipped with more than " ++ countAs 1 ++ .char ' ' ++ .phrase 2
    ++ (.char '.' <|> .char ',' <|> .text "and" <|> .textEnd)

/-- A name up to a comma or a full stop, as group `n`. -/
def clauseName (n : Nat) : Pattern := .group n (.shortest fun c => c != ',' && c != '.')

/-- One or two weapons that may not be taken, as groups 1 and 2. -/
def excludedWeapon : Pattern :=
  .text "cannot be equipped with " ++ article ++ clauseName 1
    ++ .opt (.text " or " ++ article ++ clauseName 2) ++ clauseStop

/-- How the other two statements that begin like an exclusion go on. -/
def otherStatement : Pattern := (.text "both" <|> .text "more than") ++ .char ' '

/-- How many of a list may be taken, as group 1. -/
def listLimit : Pattern := .text "up to " ++ countAs 1 ++ .text " of the following"

/-! ## Reading -/

/-- The cleaned name in a group. -/
def cleanGroup (m : Pattern.Match) (n : Nat) : String := String.ofList (cleanName (m.group n))

/-- The weapons that a sentence excludes. -/
def readExcluded (s : List Char) : List String :=
  match excludedWeapon.find s with
  | .none => []
  | some m =>
    if (otherStatement.matchStart (m.group 1)).isSome then []
    else cleanGroup m 1 :: (if (m.group 2).isEmpty then [] else [cleanGroup m 2])

/-- The limits that a sentence sets to items. -/
def readLimits (s : List Char) : Except LongNumeral (List ItemLimit) := do
  let found ← (weaponLimit.findAll s).mapM fun m => do
    let n ← readCount? (m.group 1)
    return n.map fun n => ⟨cleanGroup m 2, n⟩
  return found.filterMap id

/-- How many of a list a sentence lets take. -/
def readListLimit (s : List Char) : Except LongNumeral (Option Int) :=
  match listLimit.find s with
  | .none => .ok .none
  | some m => do
    let n ← readCount? (m.group 1)
    return n.map Int.ofNat

/-- All restrictions that a sentence states. -/
def readConstraints (s : List Char) : Except LongNumeral Constraints := do
  let limits ← readLimits s
  let most ← readListLimit s
  return {
    restrictedWeapons :=
      (restrictedWeapon.find s).toList.map fun m => String.ofList (trim (m.group 1))
    mutuallyExclusive := (exclusivePair.findAll s).map fun m => (cleanGroup m 1, cleanGroup m 2)
    maxWeaponCount := limits
    excludedWeapons := readExcluded s
    noDuplicates := (Pattern.text "cannot take duplicates").occursIn s
    allowDuplicates := (Pattern.text "can take duplicates").occursIn s
    mustBeDifferent :=
      (Pattern.text "two different " ++ (.text "weapons" <|> .text "items")).occursIn s
    maxSelections := most }

end Muster.Wargear
