/-
  Abilities: named bundles of mechanics, and the army that brings them.

  A CORE ability is known by its name and may take a parameter; its mechanics are TEMPLATES,
  document values in which the text `{parameter}` stands for the parameter.  A faction ability has
  an id and its mechanics are complete, and so are those of the abilities listed with a unit or a
  leader and of a stratagem in play.  An ARMY is what one combatant brings: these, and references by
  name and id.
-/
import Muster.Combat.Mechanic

namespace Muster.Combat

open Document

/-- Whether a core ability takes a parameter. -/
inductive AbilityType where
  | plain
  | parameterized
deriving Repr, DecidableEq

/-- The names of the types of core abilities. -/
def abilityTypes : List (String × AbilityType) := [
  ("static", .plain), ("parameterized", .parameterized)]

/-- A core ability; each template is an object. -/
structure CoreAbility where
  name : String
  type : AbilityType
  description : String
  templates : List Value

/-- A faction ability. -/
structure FactionAbility where
  id : String
  name : String
  description : String
  legend : String
  mechanics : List Mechanic

/-- An ability listed with a unit. -/
structure Ability where
  id : Option String
  name : String
  parameter : Option String
  mechanics : List Mechanic

/-- A reference to a core ability, with the parameter it takes there. -/
structure CoreReference where
  name : String
  parameter : Option String
deriving Repr, DecidableEq

/-- A stratagem in play. -/
structure Stratagem where
  id : String
  name : String
  mechanics : List Mechanic
  appliesTo : Side

/-- What one combatant brings. -/
structure Army where
  factionAbilities : List FactionAbility
  factionIds : List String
  coreReferences : List CoreReference
  unitAbilities : List Ability
  unitName : Option String
  leaderAbilities : List Ability
  stratagems : List Stratagem

/-- The army that brings nothing. -/
def Army.none : Army := ⟨[], [], [], [], .none, [], []⟩

/-! ## Records -/

/-- A template from a document value: an object with text keys. -/
def templateOf : Reader Value
  | .object fs =>
    if fs.all fun f => match f.1 with
      | .text _ => true
      | .other _ => false
    then .ok (.object fs) else .refuse .stringType
  | _ => .refuse .dictType

/-- A core ability from a document value. -/
def CoreAbility.read : Reader CoreAbility := record fun v =>
  CoreAbility.mk
    <$> required v "name" text
    <*> optional v "type" .plain (oneOf abilityTypes .literalError)
    <*> optional v "description" "" text
    <*> optional v "mechanics" [] (listOf templateOf)

/-- A core ability as a document value. -/
def CoreAbility.toValue (a : CoreAbility) : Value := .ofFields [
  ("name", .text a.name), ("type", .named abilityTypes a.type),
  ("description", .text a.description), ("mechanics", .list a.templates)]

/-- A faction ability from a document value. -/
def FactionAbility.read : Reader FactionAbility := record fun v =>
  FactionAbility.mk
    <$> required v "id" text
    <*> required v "name" text
    <*> optional v "description" "" text
    <*> optional v "legend" "" text
    <*> optional v "mechanics" [] readMechanics

/-- A faction ability as a document value. -/
def FactionAbility.toValue (a : FactionAbility) : Value := .ofFields [
  ("id", .text a.id), ("name", .text a.name), ("description", .text a.description),
  ("legend", .text a.legend), ("mechanics", mechanicsValue a.mechanics)]

/-- An ability from a document value. -/
def Ability.read : Reader Ability := record fun v =>
  Ability.mk
    <$> optional v "id" none (nullable text)
    <*> required v "name" text
    <*> optional v "parameter" none (nullable text)
    <*> optional v "mechanics" [] readMechanics

/-- An ability as a document value. -/
def Ability.toValue (a : Ability) : Value := .ofFields [
  ("id", .ofOption .text a.id), ("name", .text a.name),
  ("parameter", .ofOption .text a.parameter), ("mechanics", mechanicsValue a.mechanics)]

/-- A reference from a document value. -/
def CoreReference.read : Reader CoreReference := record fun v =>
  CoreReference.mk <$> required v "name" text <*> optional v "parameter" none (nullable text)

/-- A reference as a document value. -/
def CoreReference.toValue (r : CoreReference) : Value := .ofFields [
  ("name", .text r.name), ("parameter", .ofOption .text r.parameter)]

/-- A stratagem from a document value. -/
def Stratagem.read : Reader Stratagem := record fun v =>
  Stratagem.mk
    <$> required v "id" text
    <*> required v "name" text
    <*> optional v "mechanics" [] readMechanics
    <*> optional v "applies_to" .attacker (oneOf sideNames .literalError)

/-- A stratagem as a document value. -/
def Stratagem.toValue (s : Stratagem) : Value := .ofFields [
  ("id", .text s.id), ("name", .text s.name), ("mechanics", mechanicsValue s.mechanics),
  ("applies_to", .named sideNames s.appliesTo)]

/-- An army from a document value. -/
def Army.read : Reader Army := record fun v =>
  Army.mk
    <$> optional v "faction_abilities" [] (listOf FactionAbility.read)
    <*> optional v "faction_ability_ids" [] (listOf text)
    <*> optional v "core_abilities" [] (listOf CoreReference.read)
    <*> optional v "unit_abilities" [] (listOf Ability.read)
    <*> optional v "unit_name" .none (nullable text)
    <*> optional v "leader_abilities" [] (listOf Ability.read)
    <*> optional v "stratagems" [] (listOf Stratagem.read)

/-- An army as a document value. -/
def Army.toValue (a : Army) : Value := .ofFields [
  ("faction_abilities", .ofList FactionAbility.toValue a.factionAbilities),
  ("faction_ability_ids", .texts a.factionIds),
  ("core_abilities", .ofList CoreReference.toValue a.coreReferences),
  ("unit_abilities", .ofList Ability.toValue a.unitAbilities),
  ("unit_name", .ofOption .text a.unitName),
  ("leader_abilities", .ofList Ability.toValue a.leaderAbilities),
  ("stratagems", .ofList Stratagem.toValue a.stratagems)]

end Muster.Combat
