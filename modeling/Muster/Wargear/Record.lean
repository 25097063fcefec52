/-
  Wargear records as document values, in both directions.

  Each record is read with its defaults and written with every field, absent values as `null`;
  reading what was written gives the record back.  Field names are those of the data files.
-/
import Muster.Document.Writer
import Muster.Wargear.Validation
import Muster.Wargear.Fingerprint

namespace Muster.Wargear

open Document

/-! ## Datasheets -/

/-- An option line from a document value. -/
def OptionLine.read : Reader OptionLine := record fun v =>
  OptionLine.mk
    <$> optional v "datasheet_id" "" text
    <*> optional v "line" 0 integer
    <*> optional v "button" "" text
    <*> required v "description" text

/-- An option line as a document value. -/
def OptionLine.toValue (o : OptionLine) : Value := .ofFields [
  ("datasheet_id", .text o.datasheetId), ("line", .int o.line), ("button", .text o.button),
  ("description", .text o.description)]

/-- A roster entry from a document value. -/
def RosterEntry.read : Reader RosterEntry := record fun v =>
  RosterEntry.mk
    <$> required v "description" text
    <*> optional v "min" 1 integer
    <*> optional v "max" 1 integer

/-- A weapon from a document value. -/
def Weapon.read : Reader Weapon := record fun v =>
  Weapon.mk <$> required v "id" text <*> required v "name" text

/-- A datasheet from a document value. -/
def Datasheet.read : Reader Datasheet := record fun v =>
  Datasheet.mk
    <$> required v "datasheet_id" text
    <*> optional v "name" "" text
    <*> optional v "default_loadout" "" text
    <*> optional v "unit_composition" [] (listOf RosterEntry.read)
    <*> optional v "weapons" [] (listOf Weapon.read)
    <*> optional v "wargear_abilities" [] (listOf text)
    <*> optional v "options" [] (listOf OptionLine.read)

/-- A datasheet as a document value. -/
def Datasheet.toValue (d : Datasheet) : Value := .ofFields [
  ("datasheet_id", .text d.id), ("name", .text d.name),
  ("default_loadout", .text d.defaultLoadout),
  ("unit_composition", .ofList RosterEntry.toValue d.roster),
  ("weapons", .ofList Weapon.toValue d.weapons),
  ("wargear_abilities", .texts d.abilities),
  ("options", .ofList OptionLine.toValue d.options)]

/-! ## Parsed options -/

/-- An item from a document value. -/
def Item.read : Reader Item := record fun v =>
  Item.mk <$> required v "name" text <*> optional v "count" 1 integer

/-- An item as a document value. -/
def Item.toValue (i : Item) : Value := .ofFields [("name", .text i.name), ("count", .int i.count)]

/-- A choice from a document value. -/
def Choice.read : Reader Choice := record fun v =>
  Choice.mk <$> required v "weapons" (listOf Item.read) <*> optional v "is_package" false boolean

/-- A choice as a document value. -/
def Choice.toValue (c : Choice) : Value := .ofFields [
  ("weapons", .ofList Item.toValue c.items), ("is_package", .bool c.isPackage)]

/-- The one type of condition. -/
def conditionType : String := "equipped-with"

/-- A condition from a document value. -/
def EquippedCondition.read : Reader EquippedCondition := record fun v =>
  (fun _ => EquippedCondition.mk)
    <$> optional v "type" () (oneOf [(conditionType, ())] .literalError)
    <*> optional v "weapon_name" none (nullable text)
    <*> optional v "weapon_names" [] (listOf text)

/-- A condition as a document value. -/
def EquippedCondition.toValue (c : EquippedCondition) : Value := .ofFields [
  ("type", .text conditionType), ("weapon_name", .ofOption .text c.weaponName),
  ("weapon_names", .texts c.weaponNames)]

/-- A targeting from a document value. -/
def Targeting.read : Reader Targeting := record fun v =>
  Targeting.mk
    <$> optional v "kind" "unknown" text
    <*> optional v "type" "unknown" text
    <*> optional v "model_type" none (nullable text)
    <*> optional v "count" none (nullable integer)
    <*> optional v "ratio" none (nullable integer)
    <*> optional v "max_per_ratio" none (nullable integer)
    <*> optional v "max_total" none (nullable integer)
    <*> optional v "unit_size_threshold" none (nullable integer)
    <*> optional v "condition" none (nullable EquippedCondition.read)

/-- A targeting as a document value. -/
def Targeting.toValue (t : Targeting) : Value := .ofFields [
  ("kind", .text t.kind), ("type", .text t.type), ("model_type", .ofOption .text t.modelType),
  ("count", .ofOption .int t.count), ("ratio", .ofOption .int t.ratio),
  ("max_per_ratio", .ofOption .int t.maxPerRatio), ("max_total", .ofOption .int t.maxTotal),
  ("unit_size_threshold", .ofOption .int t.unitSizeThreshold),
  ("condition", .ofOption EquippedCondition.toValue t.condition)]

/-- The names of the action types. -/
def actionTypes : List (String × ActionType) := [
  ("replace", .replace), ("add", .add), ("unknown", .unknown)]

/-- An action from a document value. -/
def Action.read : Reader Action := record fun v =>
  Action.mk
    <$> optional v "kind" "unknown" text
    <*> optional v "type" .unknown (oneOf actionTypes .literalError)
    <*> optional v "removes" [] (listOf Item.read)
    <*> optional v "adds" [] (listOf Choice.read)
    <*> optional v "is_choice_list" false boolean
    <*> optional v "max_selections" none (nullable integer)

/-- An action as a document value. -/
def Action.toValue (a : Action) : Value := .ofFields [
  ("kind", .text a.kind), ("type", .named actionTypes a.type),
  ("removes", .ofList Item.toValue a.removes), ("adds", .ofList Choice.toValue a.adds),
  ("is_choice_list", .bool a.isChoiceList), ("max_selections", .ofOption .int a.maxSelections)]

/-- A limit from a document value. -/
def ItemLimit.read : Reader ItemLimit := record fun v =>
  ItemLimit.mk <$> required v "weapon" text <*> required v "max" integer

/-- A limit as a document value. -/
def ItemLimit.toValue (l : ItemLimit) : Value := .ofFields [
  ("weapon", .text l.weapon), ("max", .int l.max)]

/-- Constraints from a document value. -/
def Constraints.read : Reader Constraints := record fun v =>
  Constraints.mk
    <$> optional v "restricted_weapons" [] (listOf text)
    <*> optional v "mutually_exclusive" [] (listOf (pairOf text))
    <*> optional v "max_weapon_count" [] (listOf ItemLimit.read)
    <*> optional v "excluded_weapons" [] (listOf text)
    <*> optional v "no_duplicates" false boolean
    <*> optional v "allow_duplicates" false boolean
    <*> optional v "must_be_different" false boolean
    <*> optional v "max_selections" .none (nullable integer)

/-- The fields of constraints. -/
def Constraints.fields (c : Constraints) : List (String × Value) := [
  ("restricted_weapons", .texts c.restrictedWeapons),
  ("mutually_exclusive", .ofList (fun p => .texts [p.1, p.2]) c.mutuallyExclusive),
  ("max_weapon_count", .ofList ItemLimit.toValue c.maxWeaponCount),
  ("excluded_weapons", .texts c.excludedWeapons),
  ("no_duplicates", .bool c.noDuplicates), ("allow_duplicates", .bool c.allowDuplicates),
  ("must_be_different", .bool c.mustBeDifferent),
  ("max_selections", .ofOption .int c.maxSelections)]

/-- Constraints as a document value. -/
def Constraints.toValue (c : Constraints) : Value := .ofFields c.fields

/-- Whether a field of constraints says anything. -/
def statesSomething : Value → Bool
  | .list vs => !vs.isEmpty
  | .bool b => b
  | .null => false
  | _ => true

/-- Constraints as a document value that holds only those stated. -/
def Constraints.stated (c : Constraints) : Value :=
  .ofFields (c.fields.filter fun f => statesSomething f.2)

/-- A parsed option from a document value. -/
def ParsedOption.read : Reader ParsedOption := record fun v =>
  ParsedOption.mk
    <$> optional v "line" 0 integer
    <*> required v "raw_text" text
    <*> optional v "wargear_parsed" false boolean
    <*> optional v "targeting" .unknown Targeting.read
    <*> optional v "action" .unknown Action.read
    <*> optional v "constraints" .none Constraints.read

/-- The fields of a parsed option. -/
def ParsedOption.fields (o : ParsedOption) : List (String × Value) := [
  ("line", .int o.line), ("raw_text", .text o.rawText), ("wargear_parsed", .bool o.wargearParsed),
  ("targeting", o.targeting.toValue), ("action", o.action.toValue),
  ("constraints", o.constraints.toValue)]

/-- A parsed option as a document value. -/
def ParsedOption.toValue (o : ParsedOption) : Value := .ofFields o.fields

/-- A parsed option with what follows from it: whether it is actionable, and its two kinds. -/
def ParsedOption.summary (o : ParsedOption) : Value := .ofFields (o.fields ++ [
  ("is_actionable", .bool o.isActionable), ("targeting_kind", .text o.targeting.kind),
  ("action_kind", .text o.action.kind)])

/-! ## Generation -/

/-- A stated default as a document value. -/
def DefaultLoadout.toValue (d : DefaultLoadout) : Value := .ofFields [
  ("model_type", .text d.modelType), ("items", .texts d.items)]

/-- The names of the clause types. -/
def clauseTypes : List (String × ClauseType) := [
  ("any", .anyModel), ("model-type", .modelType), ("ratio", .ratio)]

/-- A clause as a document value. -/
def Clause.toValue (c : Clause) : Value := .ofFields [
  ("type", .named clauseTypes c.type), ("model_types", .texts c.modelTypes),
  ("ratio", .ofOption .int c.ratio), ("count", .ofOption .int c.count)]

/-- The eligibility of an item as a document value. -/
def Eligibility.toValue (e : Eligibility) : Value := .ofFields [
  ("weapon_id", .text e.weaponId), ("eligibility", .ofList Clause.toValue e.clauses)]

/-- The names of the notes on groups. -/
def groupTargetingTypes : List (String × GroupTargetingType) := [
  ("ratio", .ratio), ("up-to-n", .upTo), ("n-model-specific", .modelCount)]

/-- A note on a group from a document value. -/
def GroupTargeting.read : Reader GroupTargeting := record fun v =>
  GroupTargeting.mk
    <$> required v "type" (oneOf groupTargetingTypes .literalError)
    <*> optional v "ratio" none (nullable integer)
    <*> optional v "count" none (nullable integer)
    <*> optional v "max_per_ratio" none (nullable integer)
    <*> optional v "max" none (nullable integer)

/-- A note on a group as a document value. -/
def GroupTargeting.toValue (t : GroupTargeting) : Value := .ofFields [
  ("type", .named groupTargetingTypes t.type), ("ratio", .ofOption .int t.ratio),
  ("count", .ofOption .int t.count), ("max_per_ratio", .ofOption .int t.maxPerRatio),
  ("max", .ofOption .int t.max)]

/-- A group from a document value. -/
def Group.read : Reader Group := record fun v =>
  Group.mk
    <$> required v "model_type" text
    <*> required v "items" (listOf (tupleOf text))
    <*> optional v "targeting" none (nullable GroupTargeting.read)

/-- A group as a document value. -/
def Group.toValue (g : Group) : Value := .ofFields [
  ("model_type", .text g.modelType), ("items", .ofList Value.texts g.items),
  ("targeting", .ofOption GroupTargeting.toValue g.targeting)]

/-- A report as a document value. -/
def Report.toValue (r : Report) : Value := .ofFields [
  ("unparsed_lines", .ints r.unparsedLines), ("skipped_lines", .ints r.skippedLines),
  ("model_types", .texts r.modelTypes)]

/-- The result of a generation run as a document value. -/
def Generation.toValue (g : Generation) : Value := .ofFields [
  ("datasheet_id", .text g.datasheetId), ("groups", .ofList Group.toValue g.groups),
  ("eligibility", .ofList Eligibility.toValue g.eligibility), ("report", g.report.toValue)]

/-! ## Validation -/

/-- A fielded model from a document value. -/
def Fielded.read : Reader Fielded := record fun v =>
  Fielded.mk
    <$> optional v "instance_id" "" text
    <*> required v "model_type" text
    <*> optional v "loadout" [] (listOf text)

/-- A verdict as a document value. -/
def Verdict.toValue (r : Verdict) : Value := .ofFields [
  ("is_valid", .bool r.isValid), ("matched_group", .ofOption Group.toValue r.matchedGroup),
  ("closest_match", .ofOption Value.texts r.closestMatch),
  ("missing_items", .texts r.missingItems), ("extra_items", .texts r.extraItems)]

/-- The verdicts on a unit as a document value. -/
def UnitVerdict.toValue (r : UnitVerdict) : Value := .ofFields [
  ("model_validations", .ofFields (r.models.map fun p => (p.1, p.2.toValue))),
  ("has_any_invalid", .bool r.anyInvalid), ("invalid_count", .int r.invalidCount)]

end Muster.Wargear
