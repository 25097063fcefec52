/-
  Loadouts: the items a model carries, as a sorted list of ids.

  Two loadouts with the same items are the same loadout, so every loadout is kept in sorted order
  and compared as a list.  Putting items in never doubles one that is already there.

  `firsts` keeps the first of equal loadouts.  It remembers what it has seen in a hash set, because
  an expansion may pass hundreds of thousands of candidates through it; its meaning is that of the
  plain recursion, and nothing else depends on how it looks things up.
-/
import Std.Data.HashSet

namespace Muster.Wargear

/-- Item ids in sorted order. -/
abbrev Loadout := List String

namespace Loadout

/-- Puts an id before the first that is larger. -/
def insertSorted (a : String) : List String → List String
  | [] => [a]
  | b :: bs => if b < a then b :: insertSorted a bs else a :: b :: bs

/-- Ids in sorted order. -/
def ofItems (ids : List String) : Loadout := ids.foldr insertSorted []

/-- Puts ids that are not yet there behind those kept. -/
def addMissing (kept : List String) : List String → List String
  | [] => kept
  | a :: as => addMissing (if kept.contains a then kept else kept ++ [a]) as

/-- A loadout with some ids taken out and others put in. -/
def change (l : Loadout) (removed added : List String) : Loadout :=
  ofItems (addMissing (l.filter fun a => !removed.contains a) added)

end Loadout

/-- The items from here on that were not seen before, behind those kept. -/
def firstsFrom {α : Type} [BEq α] [Hashable α] (seen : Std.HashSet α) (kept : Array α) :
    List α → Array α
  | [] => kept
  | a :: as =>
    if seen.contains a then firstsFrom seen kept as
    else firstsFrom (seen.insert a) (kept.push a) as

/-- A list with only the first of equal items kept. -/
def firsts {α : Type} [BEq α] [Hashable α] (as : List α) : List α :=
  (firstsFrom ∅ #[] as).toList

end Muster.Wargear
