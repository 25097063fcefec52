/-
  Registries: the abilities that references are looked up in.

  (1) The CORE registry knows abilities by name, in upper case and trimmed.  Two entries with one
      name are one: the later counts, in the place of the earlier.  A template without placeholder
      must be a valid mechanic when the registry is built; one with a placeholder is checked when it
      is resolved with a parameter.
  (2) The FACTION registry knows abilities by id, and by name without regard to case, quotes, dashes
      and blanks.  Of abilities with one id the last counts, of abilities with one name the first.
  (3) MERGING folds sightings of faction abilities into one per id: the first fixes the name and the
      text, and mechanics are replaced only by richer ones, measured by the size they have in
      writing.

  A registry comes from a document; `LoadError` says what a document may lack.
-/
import Muster.Combat.Ability
import Muster.Combat.Template
import Muster.Document.File
import Muster.Table
import Muster.Text.Cut

namespace Muster.Combat

open Text Document

/-! ## Names -/

/-- An ability name as core abilities are known by. -/
def abilityKey (s : List Char) : List Char := trim (upper s)

/-- A character of a loose name: quotes and dashes of all sorts made plain. -/
def looseChar (c : Char) : Char :=
  if [0x2018, 0x2019, 0x60].contains c.toNat then '\''
  else if [0x201C, 0x201D].contains c.toNat then '"'
  else if [0x2D, 0x2010, 0x2011, 0x2012, 0x2013, 0x2014].contains c.toNat then ' '
  else c

/-- A name as it is compared loosely. -/
def looseKey (s : List Char) : List Char := squeeze ((lower s).map looseChar)

/-! ## Errors -/

/-- Why a registry cannot be had. -/
inductive LoadError where
  | notFound (path : String)
  | malformed (path : String)
  /-- The file is in its notation, but something in it cannot be read. -/
  | unreadable (f : Fault)
  /-- A template is found within itself, or holds too many collections one within the other. -/
  | endlessTemplate
  | noAbilities
  | noFactionAbilities
  | invalidCoreAbility
  | invalidFactionAbility
deriving Repr, DecidableEq

/-- What to say about a registry that cannot be had. -/
def LoadError.message? : LoadError → Option String
  | notFound path => some ("Registry file not found: " ++ path)
  | malformed path => some ("Registry file is malformed: " ++ path)
  | unreadable f => f.message?
  | endlessTemplate => none
  | noAbilities => some "Core ability registry must contain an 'abilities' mapping"
  | noFactionAbilities => some "Faction registry must contain a 'faction_abilities' list"
  | invalidCoreAbility => some "Invalid core ability definition"
  | invalidFactionAbility => some "Invalid faction ability definition"

/-- Which further details come with an error, by name. -/
def LoadError.details : LoadError → List String
  | notFound _ => ["path"]
  | malformed _ => ["error", "path"]
  | unreadable _ | endlessTemplate | noAbilities | noFactionAbilities => []
  | invalidCoreAbility | invalidFactionAbility => ["error"]

/-- The document of a registry file, given what the file holds, if it exists. -/
def loadDocument (path : String) (content : Option String) : Except LoadError Value :=
  match content with
  | none => .error (.notFound path)
  | some s =>
    match readFile path.toList s.toList with
    | .ok v => .ok v
    | .error .malformed => .error (.malformed path)
    | .error f => .error (.unreadable f)

/-! ## Core abilities -/

/-- Core abilities by key, in the order in which the keys first came. -/
structure CoreRegistry where
  entries : List (List Char × CoreAbility)

namespace CoreRegistry

/-- The registry without abilities. -/
def empty : CoreRegistry := ⟨[]⟩

/-- The registry of some abilities. -/
def ofAbilities (as : List CoreAbility) : CoreRegistry :=
  ⟨Table.ofPairs (as.map fun a => (abilityKey a.name.toList, a))⟩

/-- The number of abilities. -/
def size (r : CoreRegistry) : Nat := r.entries.length

/-- The keys of the abilities. -/
def names (r : CoreRegistry) : List String := r.entries.map fun e => String.ofList e.1

/-- The ability of a name. -/
def get? (r : CoreRegistry) (name : String) : Option CoreAbility :=
  r.entries.lookup (abilityKey name.toList)

/-- Whether a name is known. -/
def contains (r : CoreRegistry) (name : String) : Bool := (r.get? name).isSome

/-- Why a reference cannot be turned into mechanics. -/
inductive ResolveError where
  | invalid (problems : List Problem)
  | template (e : TemplateError)

/-- The mechanics of an ability, with the parameter put in if one is given. -/
def mechanicsOf (a : CoreAbility) (parameter : Option Value) :
    Except ResolveError (List Mechanic) := do
  let templates ← match parameter with
    | none => .ok a.templates
    | some p => do
      let x ← (substituteFor p).mapError fun e => .template (.longParameter e)
      (substituteAll x a.templates).mapError .template
  (readMechanics (.list templates)).toExcept.mapError .invalid

/-- The mechanics of the ability of a name; nothing if the name is not known. -/
def resolve (r : CoreRegistry) (name : String) (parameter : Option Value) :
    Except ResolveError (Option (List Mechanic)) :=
  match r.get? name with
  | none => .ok none
  | some a => (mechanicsOf a parameter).map some

/-! ### Loading -/

/-- Whether an entry counts as empty. -/
def isBlankEntry : Value → Bool
  | .null => true
  | .bool b => !b
  | .int n => n == 0
  | .double (.finite _ m _) => m == 0
  | .text s => s.isEmpty
  | .bytes bs => bs.isEmpty
  | .list vs => vs.isEmpty
  | .object fs => fs.isEmpty
  | .foreign _ | .endless | .double _ => false

/-- The text of a key, if it is one. -/
def keyText? : Key → Option String
  | .text s => some s
  | .other _ => none

/-- Whether every key of an object is a text. -/
def allTextKeys (fs : List (Key × Value)) : Bool := fs.all fun f => (keyText? f.1).isSome

/-- Refuses an ability whose templates are not valid, as far as can be told without a parameter. -/
def checkTemplates (a : CoreAbility) : Except LoadError CoreAbility :=
  if searchFails deepestSearch (.list a.templates) then .error .endlessTemplate
  else if anyPlaceholder a.templates then .ok a
  else match readMechanics (.list a.templates) with
    | .ok _ => .ok a
    | .bad _ => .error .invalidCoreAbility

/-- The fields that an entry gives to its ability; nothing if it cannot give any. -/
def entryFields? (entry : Value) : Option (List (Key × Value)) :=
  if isBlankEntry entry then some []
  else match entry with
    | .object fs =>
      if allTextKeys fs && (fs.lookup (.text "name")).isNone then some fs else none
    | _ => none

/-- The ability of an entry under a name. -/
def entryAbility (name : Key) (entry : Value) : Except LoadError CoreAbility :=
  match keyText? name, entryFields? entry with
  | some name, some fs =>
    match CoreAbility.read (.object ((.text "name", .text name) :: fs)) with
    | .ok a => checkTemplates a
    | .bad _ => .error .invalidCoreAbility
  | _, _ => .error .invalidCoreAbility

/-- A core registry from a document. -/
def ofDocument (v : Value) : Except LoadError CoreRegistry :=
  match v.field? "abilities" with
  | some (.object fs) => (fs.mapM fun f => entryAbility f.1 f.2).map ofAbilities
  | _ => .error .noAbilities

end CoreRegistry

/-! ## Faction abilities -/

/-- Faction abilities by id and by loose name. -/
structure FactionRegistry where
  byId : List (String × FactionAbility)
  byName : List (List Char × FactionAbility)

namespace FactionRegistry

/-- The registry without abilities. -/
def empty : FactionRegistry := ⟨[], []⟩

/-- Adds an ability: it takes over its id, and its name unless that is taken. -/
def add (r : FactionRegistry) (a : FactionAbility) : FactionRegistry where
  byId := Table.put a.id a r.byId
  byName :=
    let key := looseKey a.name.toList
    if (r.byName.lookup key).isSome then r.byName else r.byName ++ [(key, a)]

/-- The registry of some abilities. -/
def ofAbilities (as : List FactionAbility) : FactionRegistry := as.foldl add empty

/-- The number of ids. -/
def size (r : FactionRegistry) : Nat := r.byId.length

/-- The ability of an id. -/
def get? (r : FactionRegistry) (id : String) : Option FactionAbility := r.byId.lookup id

/-- The ability of a name. -/
def getByName? (r : FactionRegistry) (name : String) : Option FactionAbility :=
  r.byName.lookup (looseKey name.toList)

/-- Whether an id is known. -/
def contains (r : FactionRegistry) (id : String) : Bool := (r.get? id).isSome

/-- The abilities of those ids that are known, and the ids that are not. -/
def resolveIds (r : FactionRegistry) (ids : List String) : List FactionAbility × List String :=
  (ids.filterMap r.get?, ids.filter fun id => !r.contains id)

/-- The ability of an entry; nothing if the entry is invalid. -/
def entryAbility (entry : Value) : Option FactionAbility :=
  match entry with
  | .object fs =>
    if CoreRegistry.allTextKeys fs then
      match FactionAbility.read entry with
      | .ok a => some a
      | .bad _ => none
    else none
  | _ => none

/-- A faction registry from a document. -/
def ofDocument (v : Value) : Except LoadError FactionRegistry :=
  match v.field? "faction_abilities" with
  | some (.list vs) =>
    match vs.mapM entryAbility with
    | some as => .ok (ofAbilities as)
    | none => .error .invalidFactionAbility
  | _ => .error .noFactionAbilities

end FactionRegistry

/-! ## Merging -/

/-- An ability after another sighting of it. -/
def FactionAbility.enrich (a b : FactionAbility) : FactionAbility :=
  if b.mechanics.isEmpty then a
  else if a.mechanics.isEmpty || mechanicsSize b.mechanics > mechanicsSize a.mechanics then
    { a with mechanics := b.mechanics }
  else a

/-- Takes in one sighting. -/
def mergeStep (merged : List (String × FactionAbility)) (a : FactionAbility) :
    List (String × FactionAbility) :=
  match merged.lookup a.id with
  | none => merged ++ [(a.id, a)]
  | some b => Table.put a.id (b.enrich a) merged

/-- One ability per id, in the order of the first sightings. -/
def mergeFactionAbilities (as : List FactionAbility) : List FactionAbility :=
  (as.foldl mergeStep []).map Prod.snd

end Muster.Combat
