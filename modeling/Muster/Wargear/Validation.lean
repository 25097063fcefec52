/-
  Validation: is a model's loadout one of the legal ones, and if not, which is nearest?

  The candidates of a model type are the loadouts of the group for any model followed by those of
  the groups that match the type by name.  A loadout is valid when it is a permutation of a
  candidate.  Otherwise the nearest candidate is suggested, with what is missing and what is too
  much: nearness is the number of items offered, less those missing, less those too many, and of
  equally near candidates the first counts.  Where nothing is known nothing is forbidden: without a
  group, or without a candidate, every loadout is valid.
-/
import Muster.Table
import Muster.Wargear.Generation

namespace Muster.Wargear

open Text

/-- A model in the field. -/
structure Fielded where
  instanceId : String
  modelType : String
  loadout : List String
deriving Repr, DecidableEq

/-- What is said about one loadout. -/
structure Verdict where
  isValid : Bool
  matchedGroup : Option Group
  closestMatch : Option Loadout
  missingItems : List String
  extraItems : List String
deriving Repr, DecidableEq

/-- What is said about the models of a unit, by instance id. -/
structure UnitVerdict where
  models : List (String × Verdict)
  anyInvalid : Bool
  invalidCount : Nat
deriving Repr, DecidableEq

/-! ## Candidates -/

/-- Whether the loadouts of a group apply to models of a type. -/
def matchesGroup (modelType groupType : String) : Bool :=
  if groupType == anyModel then true
  else if groupType == unitWide then false
  else sameModelType modelType.toList groupType.toList

/-- The group for any model. -/
def anyGroup? (gs : List Group) : Option Group := gs.find? fun g => g.modelType == anyModel

/-- The groups that match a model type by name. -/
def specificGroups (modelType : String) (gs : List Group) : List Group :=
  gs.filter fun g =>
    g.modelType != anyModel && g.modelType != unitWide && matchesGroup modelType g.modelType

/-- All groups that apply to a model type as one, if they offer anything. -/
def candidateGroup (modelType : String) (gs : List Group) : Option Group :=
  let specific := specificGroups modelType gs
  let items := ((anyGroup? gs).map Group.items).getD [] ++ specific.flatMap Group.items
  if items.isEmpty then none
  else some ⟨if specific.isEmpty then anyModel else modelType, items, none⟩

/-- The first candidate that is a permutation of a loadout. -/
def findExact (loadout : List String) (candidates : List Loadout) : Option Loadout :=
  let wanted := Loadout.ofItems loadout
  candidates.find? fun c => Loadout.ofItems c == wanted

/-! ## The nearest candidate -/

/-- A candidate with what a loadout lacks of it and has beyond it. -/
structure Comparison where
  candidate : Loadout
  missing : List String
  extra : List String
deriving Repr, DecidableEq

/-- A loadout beside a candidate. -/
def compareWith (loadout candidate : List String) : Comparison where
  candidate := candidate
  missing := candidate.filter fun a => !loadout.contains a
  extra := loadout.filter fun a => !candidate.contains a

/-- How near a candidate is. -/
def score (loadout candidate : List String) : Int :=
  let c := compareWith loadout candidate
  (loadout.countP candidate.contains : Int) - (c.missing.length + c.extra.length)

/-- The better of the best so far and the next candidate. -/
def nearer (loadout : List String) (best : Option Loadout) (candidate : Loadout) : Option Loadout :=
  match best with
  | none => some candidate
  | some b => if score loadout candidate > score loadout b then some candidate else some b

/-- The nearest candidate, the first of equally near ones. -/
def findClosest (loadout : List String) (candidates : List Loadout) : Option Comparison :=
  (candidates.foldl (nearer loadout) none).map (compareWith loadout)

/-! ## Verdicts -/

/-- The verdict where nothing is forbidden. -/
def Verdict.unrestricted : Verdict := ⟨true, none, none, [], []⟩

/-- The verdict on a loadout, given the group of its candidates. -/
def verdictIn (loadout : List String) (g : Group) : Verdict :=
  match findExact loadout g.items with
  | some c => ⟨true, some g, some c, [], []⟩
  | none =>
    match findClosest loadout g.items with
    | some c => ⟨false, some g, some c.candidate, c.missing, c.extra⟩
    | none => ⟨false, some g, none, [], []⟩

/-- The verdict on the loadout of a model type. -/
def validateLoadout (modelType : String) (loadout : List String) (gs : List Group) : Verdict :=
  match candidateGroup modelType gs with
  | none => .unrestricted
  | some g => verdictIn loadout g

/-- The verdicts on the models of a unit; of models with one id the last counts. -/
def validateUnit (models : List Fielded) (gs : List Group) : UnitVerdict :=
  let verdicts := Table.ofPairs (models.map fun m =>
    (m.instanceId, validateLoadout m.modelType m.loadout gs))
  let invalid := verdicts.countP fun p => !p.2.isValid
  ⟨verdicts, decide (invalid > 0), invalid⟩

end Muster.Wargear
