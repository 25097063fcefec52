/-
  Roll targets: the number that a die must reach.

  A WOUND roll compares strength with toughness.  A hit or a wound roll never needs less than 2 or
  more than 6, whatever its modifiers, and a critical threshold below the target takes its place.  A
  SAVE worsens with the weapon's penetration and improves by one in cover, except that cover does
  nothing for a save of 3 or better against no penetration; it never needs less than 2, and 7 stands
  for no save.  An invulnerable save ignores penetration, modifiers and cover, and is used where it
  is the better one.
-/
import Muster.Combat.Capping

namespace Muster.Combat

/-- The wound roll that strength needs against toughness. -/
def baseWoundTarget (strength toughness : Int) : Int :=
  if strength ≥ 2 * toughness then 2
  else if strength > toughness then 3
  else if strength = toughness then 4
  else if 2 * strength ≤ toughness then 6
  else 5

/-- The hit roll that a skill needs. -/
def hitTarget (skill net critical : Int) : Int := min (clamp 2 6 (skill - net)) critical

/-- The wound roll that strength needs against toughness under a net modifier. -/
def woundTarget (strength toughness net critical : Int) : Int :=
  min (clamp 2 6 (baseWoundTarget strength toughness - net)) critical

/-- What a save comes to. -/
structure SaveTarget where
  target : Int
  /-- Whether the invulnerable save is the one used. -/
  invulnerable : Bool
  /-- Whether cover improved the save used. -/
  cover : Bool
deriving Repr, DecidableEq

/-- Whether cover counts for a save against a penetration. -/
def coverCounts (save ap : Int) (inCover : Bool) : Bool := inCover && !(save ≤ 3 && ap == 0)

/-- The save by armour. -/
def armourSave (save ap net : Int) (cover : Bool) : Int :=
  clamp 2 7 (save + ap.natAbs - (if cover then 1 else 0) - net)

/-- The better one of the save by armour and the invulnerable save. -/
def saveTarget (save ap net : Int) (invulnerable : Option Int) (inCover : Bool) : SaveTarget :=
  let cover := coverCounts save ap inCover
  let armour := armourSave save ap net cover
  match invulnerable with
  | some i => if i < armour then ⟨i, true, false⟩ else ⟨armour, false, cover⟩
  | none => ⟨armour, false, cover⟩

end Muster.Combat
