/-
  Generation: the legal loadouts of a unit, in groups.

  For each model type of the roster: take its default, expand it through the options that reach it,
  and keep what the constraints allow.  Then GROUP the results:
    (1) loadouts that every model type has go into one group for any model, first in the list;
    (2) the rest of each model type, if there is any, makes a group of that type, with a note on how
        many models may take it;
    (3) a single group that is left without such a note is renamed to hold for any model.
  Options that equip the unit as a whole are expanded apart from an empty base, into a last group
  that no single model is checked against.

  No option is refused: lines that were not read and lines that were dropped are reported.  Only a
  datasheet whose text holds a numeral too long to be read has no generation.
-/
import Muster.Wargear.Eligibility
import Std.Data.HashMap

namespace Muster.Wargear

open Text

/-- The model type of the group that holds for the unit as a whole. -/
def unitWide : String := "all"

/-- What a note on a group speaks of. -/
inductive GroupTargetingType where
  | ratio
  | upTo
  | modelCount
deriving Repr, DecidableEq

/-- How many models of a group may take its loadouts. -/
structure GroupTargeting where
  type : GroupTargetingType
  ratio : Option Int
  count : Option Int
  maxPerRatio : Option Int
  max : Option Int
deriving Repr, DecidableEq

/-- The legal loadouts of one model type. -/
structure Group where
  modelType : String
  items : List Loadout
  targeting : Option GroupTargeting
deriving Repr, DecidableEq

/-- What a generation run left out, and the model types it saw. -/
structure Report where
  unparsedLines : List Int
  skippedLines : List Int
  modelTypes : List String
deriving Repr, DecidableEq

/-- The result of a generation run. -/
structure Generation where
  datasheetId : String
  groups : List Group
  eligibility : List Eligibility
  report : Report
deriving Repr, DecidableEq

/-! ## Reach -/

/-- Whether a targeting reaches the models of a type: by name it accepts plurals and names within
    names, by ratio plurals only, and everything else reaches every model. -/
def Targeting.reaches (t : Targeting) (modelType : String) : Bool :=
  if namesModel t.type then
    match t.modelType with
    | none => false
    | some m =>
      if m.isEmpty then false
      else
        let target := nameKey m.toList
        let current := nameKey modelType.toList
        sameModelType target current || occurs target current || occurs current target
  else if isRatio t.type then
    match t.modelType with
    | none => true
    | some m => m.isEmpty || sameModelType m.toList modelType.toList
  else true

/-- The note that a targeting makes on a group, if it makes one. -/
def Targeting.note (t : Targeting) : Option GroupTargeting :=
  if isRatio t.type then
    some ⟨.ratio, t.ratio, some ((nonZero t.count).getD 1), t.maxPerRatio, none⟩
  else if t.type == "up-to-n" then some ⟨.upTo, none, none, none, t.maxTotal⟩
  else if t.type == "n-model-specific" then some ⟨.modelCount, none, t.count, none, none⟩
  else none

/-- How many models of a type may take what is not its default: the first note of the options that
    were read and reach it. -/
def groupTargeting (modelType : String) (os : List ParsedOption) : Option GroupTargeting :=
  os.findSome? fun o =>
    if o.wargearParsed && o.targeting.reaches modelType then o.targeting.note else none

/-! ## Grouping -/

/-- The loadouts of one model type, with the note on its group. -/
structure TypeLoadouts where
  modelType : String
  loadouts : List Loadout
  targeting : Option GroupTargeting
deriving Repr, DecidableEq

/-- How often each loadout is listed. -/
def tally (ts : List TypeLoadouts) : Std.HashMap Loadout Nat :=
  ts.foldl (fun m t => t.loadouts.foldl (fun m l => m.insert l (m.getD l 0 + 1)) m) ∅

/-- Renames a lone group without note. -/
def renameLone (gs : List Group) : List Group :=
  match gs with
  | [g] => if g.modelType != anyModel && g.targeting.isNone then [{ g with modelType := anyModel }]
    else [g]
  | _ => gs

/-- The groups of a unit with so many model types. -/
def group (ts : List TypeLoadouts) (typeCount : Nat) : List Group :=
  let shared := tally ts
  let isCommon := fun (l : Loadout) => decide (typeCount > 1) && shared.getD l 0 == typeCount
  let common := firsts (ts.flatMap fun t => t.loadouts.filter isCommon)
  let specific := ts.filterMap fun t =>
    let own := t.loadouts.filter fun l => !isCommon l
    if own.isEmpty then none else some (⟨t.modelType, own, t.targeting⟩ : Group)
  renameLone (if common.isEmpty then specific else ⟨anyModel, common, none⟩ :: specific)

/-! ## Generation -/

/-- Whether an option equips the unit as a whole. -/
def ParsedOption.isUnitWide (o : ParsedOption) : Bool :=
  o.targeting.type == "this-unit" && o.action.type == .add

/-- Whether any option can change a loadout. -/
def hasOptions (os : List ParsedOption) : Bool := os.any ParsedOption.isActionable

/-- The options that change the loadouts of a model type. -/
def applicable (os : List ParsedOption) (modelType : String) : List ParsedOption :=
  os.filter fun o => o.isActionable && !o.isUnitWide && o.targeting.reaches modelType

/-- The options that equip the unit as a whole. -/
def unitOptions (os : List ParsedOption) : List ParsedOption :=
  os.filter fun o => o.isActionable && o.isUnitWide

/-- The ids that a model type starts with, if a default is stated. -/
def baseOf (d : Datasheet) (modelType : String) : Option (List String) :=
  (defaultFor modelType (parseDefaultLoadout d.defaultLoadout d.roster)).map fun l =>
    l.items.map d.resolver.resolve

/-- The expansion of each model type that has a default. -/
def expansions (d : Datasheet) (os : List ParsedOption) (s : Settings) : List (String × Expanded) :=
  (modelTypes d.roster).filterMap fun t =>
    (baseOf d t).map fun base => (t, expand base (applicable os t) d.resolver s)

/-- Inserts a line number in order, once. -/
def insertNumber (n : Int) : List Int → List Int
  | [] => [n]
  | m :: ms => if n < m then n :: m :: ms else if n == m then m :: ms else m :: insertNumber n ms

/-- Distinct line numbers in order. -/
def distinctLines (ns : List Int) : List Int := ns.foldr insertNumber []

/-- The legal loadouts and the eligibility of a unit with given options. -/
def generateFrom (d : Datasheet) (os : List ParsedOption) (s : Settings) : Generation :=
  let r := d.resolver
  let types := modelTypes d.roster
  let unparsed := (os.filter (!·.wargearParsed)).map ParsedOption.line
  if hasOptions os then
    let perType := expansions d os s
    let whole := unitOptions os
    let wide := expand [] whole r s
    let ts := perType.map fun p =>
      (⟨p.1, applyConstraints p.2.loadouts os r, groupTargeting p.1 os⟩ : TypeLoadouts)
    let groups := group ts types.length
    let skipped := perType.flatMap (fun p => p.2.skipped)
      ++ if whole.isEmpty then [] else wide.skipped
    { datasheetId := d.id
      groups := if whole.isEmpty then groups else groups ++ [⟨unitWide, wide.loadouts, none⟩]
      eligibility := eligibility os r
      report := ⟨unparsed, distinctLines skipped, types⟩ }
  else
    { datasheetId := d.id
      groups := []
      eligibility := eligibility os r
      report := ⟨unparsed, [], types⟩ }

/-- The legal loadouts and the eligibility of a unit. -/
def generate (d : Datasheet) (s : Settings) : Except LongNumeral Generation := do
  return generateFrom d (← parseOptions d.options) s

end Muster.Wargear
