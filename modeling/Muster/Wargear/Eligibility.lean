/-
  Eligibility: which models may take an item.

  Every actionable option grants one CLAUSE to each item it adds: any model, the named model types,
  or so many models per so many in the unit.  Clauses of one item combine with OR.  So a clause for
  any model swallows the others; all named model types merge into one clause, at the place of the
  first; and a ratio that is granted twice is kept once.
-/
import Muster.Wargear.Expansion

namespace Muster.Wargear

open Text

/-- What a clause speaks of. -/
inductive ClauseType where
  | anyModel
  | modelType
  | ratio
deriving Repr, DecidableEq

/-- Which models may take an item. -/
structure Clause where
  type : ClauseType
  modelTypes : List String
  ratio : Option Int
  count : Option Int
deriving Repr, DecidableEq

/-- The clauses of one item. -/
structure Eligibility where
  weaponId : String
  clauses : List Clause
deriving Repr, DecidableEq

/-- The clause that admits every model. -/
def Clause.any : Clause := ⟨.anyModel, [], none, none⟩

/-! ## Targeting types -/

/-- Targeting types that name the model they apply to. -/
def namesModel (type : String) : Bool :=
  ["specific-model", "each-model-type", "n-model-specific"].contains type

/-- Targeting types that allow so many models per so many. -/
def isRatio (type : String) : Bool := ["ratio", "ratio-capped"].contains type

/-- A number that is given and not zero. -/
def nonZero (n : Option Int) : Option Int := n.filter (· != 0)

/-- The clause that a targeting grants to what its option adds. -/
def clauseOf (t : Targeting) : Clause :=
  let named := match t.modelType with
    | some m => if m.isEmpty then [] else [m]
    | none => []
  if isRatio t.type then
    ⟨.ratio, named, t.ratio, some ((nonZero t.count).getD ((nonZero t.maxPerRatio).getD 1))⟩
  else if !named.isEmpty && (namesModel t.type || t.type == "conditional") then
    ⟨.modelType, named, none, none⟩
  else .any

/-! ## Merging -/

/-- Clauses merged so far, and the model types named so far. -/
structure Merging where
  merged : List Clause
  named : List String

/-- Takes in one clause. -/
def Merging.step (m : Merging) (c : Clause) : Merging :=
  if c.type == .modelType then
    ⟨if m.named.isEmpty then m.merged ++ [c] else m.merged, firstsInto m.named c.modelTypes⟩
  else if m.merged.contains c then m
  else ⟨m.merged ++ [c], m.named⟩

/-- The clauses of one item, merged. -/
def mergeClauses (cs : List Clause) : List Clause :=
  if cs.any fun c => c.type == .anyModel then [.any]
  else
    let m := cs.foldl Merging.step ⟨[], []⟩
    m.merged.map fun c => if c.type == .modelType then { c with modelTypes := m.named } else c

/-- What each actionable option grants: an item id with a clause, in order. -/
def grants (os : List ParsedOption) (r : Resolver) : List (String × Clause) :=
  (os.filter ParsedOption.isActionable).flatMap fun o =>
    (o.action.adds.flatMap r.resolveChoice).map fun id => (id, clauseOf o.targeting)

/-- The eligibility of each item that some option adds, in the order of first mention. -/
def eligibility (os : List ParsedOption) (r : Resolver) : List Eligibility :=
  let granted := grants os r
  (firstsInto [] (granted.map Prod.fst)).map fun id =>
    ⟨id, mergeClauses ((granted.filter fun g => g.1 == id).map Prod.snd)⟩

end Muster.Wargear
