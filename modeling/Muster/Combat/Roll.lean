/-
  The three rolls of an attack, and who makes them.

  An attack is resolved in three rolls: the attacker rolls to hit and to wound, the defender to
  save.  Rule data names a roll in full or by its first letter; in full the spelling is exact, by
  letter case and blanks do not matter.
-/
import Muster.Document.Display
import Muster.Document.Reader
import Muster.Text.LetterCase

namespace Muster.Combat

open Text Document

/-- A roll of an attack. -/
inductive Roll where
  | hit
  | wound
  | save
deriving Repr, DecidableEq

/-- One of the two combatants. -/
inductive Side where
  | attacker
  | defender
deriving Repr, DecidableEq

/-- The other combatant. -/
def Side.other : Side → Side
  | attacker => defender
  | defender => attacker

/-- The combatant who makes a roll. -/
def Roll.maker : Roll → Side
  | hit => .attacker
  | wound => .attacker
  | save => .defender

/-- The names of the sides. -/
def sideNames : List (String × Side) := [("attacker", .attacker), ("defender", .defender)]

/-! ## Names of rolls -/

/-- The names of the rolls. -/
def rollNames : List (String × Roll) := [("hit", .hit), ("wound", .wound), ("save", .save)]

/-- The letters of the rolls. -/
def rollLetters : List (Char × Roll) := [('h', .hit), ('w', .wound), ('s', .save)]

/-- The roll that a text names. -/
def Roll.ofName? (s : String) : Option Roll :=
  match rollNames.lookup s with
  | some r => some r
  | none =>
    match lower (trim s.toList) with
    | [c] => rollLetters.lookup c
    | _ => none

/-- The name of a roll. -/
def Roll.name : Roll → String
  | hit => "hit"
  | wound => "wound"
  | save => "save"

/-- A value that names no roll. -/
structure UnknownRoll where
  value : Value

/-- What to say about a value that names no roll. -/
def UnknownRoll.message (e : UnknownRoll) : String :=
  String.ofList (display e.value) ++ " is not a valid RollAttribute"

/-- The roll that a value names. -/
def Roll.ofValue (v : Value) : Except UnknownRoll Roll :=
  match v with
  | .text s =>
    match Roll.ofName? s with
    | some r => .ok r
    | none => .error ⟨v⟩
  | _ => .error ⟨v⟩

/-- A roll from a document value. -/
def Roll.read : Reader Roll := fun v =>
  match Roll.ofValue v with
  | .ok r => .ok r
  | .error _ => .refuse .enum

/-- A roll as a document value. -/
def Roll.toValue (r : Roll) : Value := .text r.name

end Muster.Combat
