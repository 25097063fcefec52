/-
  Collection: the mechanics that a combatant brings, each with its source.

  The parts stand in a fixed order: the unit's abilities, its leader's, the core abilities
  referenced by name, the faction abilities given and then those found by id, and the stratagems in
  play for the side.  The source of a part replaces whatever source its mechanics stated.

  A reference that cannot be resolved brings nothing and is reported, core references before faction
  ids.  What is not caught is a parameter that cannot be put into its template at all.
-/
import Muster.Combat.Registry

namespace Muster.Combat

open Document

/-- Mechanics with their sources, and the references that could not be resolved. -/
structure Collected where
  mechanics : List Mechanic
  missing : List String

/-- Mechanics tagged with a source. -/
def tag (s : Source) (ms : List Mechanic) : List Mechanic := ms.map (Mechanic.withSource s)

/-- The mechanics of listed abilities. -/
def fromAbilities (type : SourceType) (unitName : Option String) (as : List Ability) :
    List Mechanic :=
  as.flatMap fun a => tag ⟨type, a.name, unitName, none⟩ a.mechanics

/-- The mechanics of faction abilities. -/
def fromFactionAbilities (as : List FactionAbility) : List Mechanic :=
  as.flatMap fun a => tag (.named .faction a.name) a.mechanics

/-- The mechanics of the stratagems in play for a side; for a bystander there are none. -/
def fromStratagems (side : Option Side) (ss : List Stratagem) : List Mechanic :=
  (ss.filter fun s => some s.appliesTo == side).flatMap fun s =>
    tag (.named .stratagem s.name) s.mechanics

/-- The name under which a core ability's mechanics are shown. -/
def coreSourceName (a : CoreAbility) (parameter : Option String) : String :=
  match stated parameter with
  | some p => a.name ++ " " ++ p
  | none => a.name

/-- The mechanics of one core reference, or the reference as missing. -/
def fromCoreReference (r : CoreRegistry) (unitName : Option String) (ref : CoreReference) :
    Except TemplateError Collected :=
  let missing : Collected := ⟨[], ["core:" ++ ref.name]⟩
  match r.get? ref.name with
  | none => .ok missing
  | some a =>
    match CoreRegistry.mechanicsOf a (ref.parameter.map .text) with
    | .ok ms => .ok ⟨tag ⟨.core, coreSourceName a ref.parameter, unitName, none⟩ ms, []⟩
    | .error (.invalid _) => .ok missing
    | .error (.template e) => .error e

/-- Everything that an army brings to a side, or to a bystander. -/
def collect (core : CoreRegistry) (faction : FactionRegistry) (army : Army)
    (side : Option Side) : Except TemplateError Collected := do
  let cores ← army.coreReferences.mapM (fromCoreReference core army.unitName)
  let (found, unknown) := faction.resolveIds army.factionIds
  return {
    mechanics := fromAbilities .unit army.unitName army.unitAbilities
      ++ fromAbilities .leader army.unitName army.leaderAbilities
      ++ cores.flatMap Collected.mechanics
      ++ fromFactionAbilities (army.factionAbilities ++ found)
      ++ fromStratagems side army.stratagems
    missing := cores.flatMap Collected.missing ++ unknown.map fun id => "faction:" ++ id }

end Muster.Combat
