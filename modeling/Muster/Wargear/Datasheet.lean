/-
  Datasheets: everything that is known about a unit before its options are worked out.

  A datasheet names the unit's roster (one line per model type), its weapons and wargear abilities,
  the text of its default loadout, and its option lines.  The RESOLVER turns the names that rule
  text uses into item ids: a weapon has the id that the datasheet gives it, a wargear ability and
  any other name an id made from its slug.

  Its texts are texts of characters, and half of a surrogate pair is none.  A text that holds one has
  no bytes in UTF-8: its fingerprint is refused before the run is looked for, so neither a hit nor a
  miss is counted.  Such texts are left out.
-/
import Muster.Wargear.Option

namespace Muster.Wargear

open Text

/-- One line of a roster, e.g. "4-9 Terminators". -/
structure RosterEntry where
  description : String
  min : Int
  max : Int
deriving Repr, DecidableEq

/-- A weapon that option text may name. -/
structure Weapon where
  id : String
  name : String
deriving Repr, DecidableEq

/-- What loadout generation knows about a unit. -/
structure Datasheet where
  id : String
  name : String
  defaultLoadout : String
  roster : List RosterEntry
  weapons : List Weapon
  abilities : List String
  options : List OptionLine
deriving Repr, DecidableEq

/-! ## Names and ids -/

/-- A name as it is compared: in lower case, without blanks around it. -/
def nameKey (s : List Char) : List Char := trim (lower s)

/-- A name as part of an id: in lower case, its words joined by dashes. -/
def slug (s : List Char) : List Char := ['-'].intercalate (words (lower s))

/-- Resolves item names to ids for one unit. -/
structure Resolver where
  datasheetId : String
  /-- Weapon ids by name key; of weapons with one key the last counts. -/
  weapons : List (List Char × String)
  /-- Name keys of the wargear abilities. -/
  abilities : List (List Char)

/-- The resolver of a datasheet. -/
def Datasheet.resolver (d : Datasheet) : Resolver where
  datasheetId := d.id
  weapons := (d.weapons.map fun w => (nameKey w.name.toList, w.id)).reverse
  abilities := d.abilities.map fun a => nameKey a.toList

/-- The id of an item name. -/
def Resolver.resolve (r : Resolver) (name : String) : String :=
  let key := nameKey name.toList
  match r.weapons.lookup key with
  | some id => id
  | none =>
    if r.abilities.contains key then "wargear-ability:" ++ String.ofList (slug key)
    else r.datasheetId ++ ":" ++ String.ofList (slug name.toList)

/-- The ids of the items of a choice. -/
def Resolver.resolveChoice (r : Resolver) (c : Choice) : List String :=
  c.items.map fun i => r.resolve i.name

end Muster.Wargear
