/-
  Expansion: the loadouts that a base reaches through a list of options.

  Options are applied in order.  Each WIDENS the list of loadouts reached so far: every loadout
  stays and is followed by its VARIANTS, one per selection that the option offers.  * A replacing
  option needs all the items it takes away, takes them out and puts one choice in.  * An adding
  option puts in one choice, or, if it allows up to K, any selection of 1 to K of them.  * A
  conditional option leaves a loadout alone that does not hold what it requires.

  Two bounds keep the list small.  An option that would break one, at any loadout, is DROPPED: it
  leaves the list exactly as it was and its line is recorded, and the later options go on.
-/
import Muster.Settings
import Muster.Wargear.Roster
import Muster.Wargear.Loadout

namespace Muster.Wargear

open Text

/-! ## Bounds -/

/-- Which bound an option breaks, and with what. -/
inductive Excess where
  /-- The option offers more than the largest count that is enumerated. -/
  | upTo (most : Int)
  | selections (attempted : Nat)
  | variants (attempted : Nat)
  | loadouts (attempted : Nat)
deriving Repr, DecidableEq

/-- An option that would break a bound. -/
structure BranchingError where
  excess : Excess
  limit : Nat
  line : Int
deriving Repr, DecidableEq

/-- What was attempted beyond the bound. -/
def Excess.attempted : Excess → Int
  | upTo most => most
  | selections n => n
  | variants n => n
  | loadouts n => n

/-- What was attempted, in words. -/
def BranchingError.message (e : BranchingError) : String :=
  let n := String.ofList (signed e.excess.attempted)
  match e.excess with
  | .upTo _ => "'up to " ++ n ++ "' exceeds the enumerable count"
  | .selections _ => n ++ " selections exceed the branching limit"
  | .variants _ => n ++ " variants exceed the branching limit"
  | .loadouts _ => n ++ " loadouts exceed the per-model-type limit"

/-! ## Selections -/

/-- The selections of exactly `k` items, by position, the earliest positions first. -/
def choose {α : Type} : Nat → List α → List (List α)
  | 0, _ => [[]]
  | _ + 1, [] => []
  | k + 1, a :: as => (choose k as).map (a :: ·) ++ choose (k + 1) as

/-- The number of selections of `k` out of `n`. -/
def binomial (n k : Nat) : Nat :=
  (List.range k).foldl (fun b i => b * (n - i) / (i + 1)) 1

/-- The number of selections of 1 to `k` out of `n`. -/
def selectionCount (n : Nat) : Nat → Nat
  | 0 => 0
  | k + 1 => selectionCount n k + binomial n (k + 1)

/-- How many choices of its list an option allows at once. -/
def Action.limit (a : Action) : Int :=
  match a.maxSelections with
  | none => 1
  | some n => if n == 0 then 1 else n

/-- The selections that an adding option offers, taking nothing left out. -/
def selections (o : ParsedOption) (s : Settings) : Except BranchingError (List (List Choice)) :=
  let choices := o.action.adds
  let limit := o.action.limit
  if limit ≤ 1 then .ok (choices.map fun c => [c])
  else if limit > s.maxEnumerated then .error ⟨.upTo limit, s.maxEnumerated, o.line⟩
  else
    let k := min limit.toNat choices.length
    let attempted := selectionCount choices.length k
    if attempted > s.maxBranching then .error ⟨.selections attempted, s.maxBranching, o.line⟩
    else .ok ((List.range k).flatMap fun i => choose (i + 1) choices)

/-! ## Variants -/

/-- An article before a name. -/
def leadingArticle : Pattern := (.char 'a' <|> .text "an") ++ .gap

/-- Whether a loadout holds every item that a condition requires. -/
def conditionMet (c : Option EquippedCondition) (l : Loadout) (r : Resolver) : Bool :=
  match c with
  | none => true
  | some c => c.requiredNames.all fun name =>
    l.contains (r.resolve (String.ofList (trim (leadingArticle.dropStart name.toList))))

/-- The variants of a loadout under an option that may be taken with it. -/
def variants (l : Loadout) (o : ParsedOption) (r : Resolver) (s : Settings) :
    Except BranchingError (List Loadout) :=
  match o.action.type with
  | .replace =>
    let removed := o.action.removes.map fun i => r.resolve i.name
    .ok (if removed.all l.contains then
      o.action.adds.map fun c => l.change removed (r.resolveChoice c) else [])
  | _ => (selections o s).map fun found =>
      found.map fun cs => l.change [] (cs.flatMap r.resolveChoice)

/-- A loadout followed by its variants under an option. -/
def branches (l : Loadout) (o : ParsedOption) (r : Resolver) (s : Settings) :
    Except BranchingError (List Loadout) :=
  if o.targeting.type == "conditional" && !conditionMet o.targeting.condition l r then .ok [l]
  else do
    let vs ← variants l o r s
    if vs.length > s.maxBranching then throw ⟨.variants vs.length, s.maxBranching, o.line⟩
    else return l :: vs

/-! ## Expansion -/

/-- The list of loadouts widened by one option. -/
def widen (ls : List Loadout) (o : ParsedOption) (r : Resolver) (s : Settings) :
    Except BranchingError (List Loadout) := do
  let found ← ls.mapM fun l => branches l o r s
  let widened := firsts found.flatten
  if widened.length > s.maxLoadouts then
    throw ⟨.loadouts widened.length, s.maxLoadouts, o.line⟩
  else return widened

/-- Loadouts reached so far, and the lines of the options that were dropped. -/
structure Expanded where
  loadouts : List Loadout
  skipped : List Int
deriving Repr, DecidableEq

/-- Applies one option, or drops it. -/
def Expanded.step (r : Resolver) (s : Settings) (e : Expanded) (o : ParsedOption) : Expanded :=
  match widen e.loadouts o r s with
  | .ok ls => ⟨ls, e.skipped⟩
  | .error _ => ⟨e.loadouts, e.skipped ++ [o.line]⟩

/-- Applies options in order to a base. -/
def expand (base : List String) (os : List ParsedOption) (r : Resolver) (s : Settings) : Expanded :=
  os.foldl (Expanded.step r s) ⟨[Loadout.ofItems base], []⟩

/-! ## Constraints -/

/-- Whether a loadout obeys what the options forbid: no exclusive pair, no item beyond its limit. -/
def allowed (os : List ParsedOption) (r : Resolver) (l : Loadout) : Bool :=
  (os.all fun o => o.constraints.mutuallyExclusive.all fun p =>
    !(l.contains (r.resolve p.1) && l.contains (r.resolve p.2)))
  && (os.all fun o => o.constraints.maxWeaponCount.all fun m =>
    decide ((l.count (r.resolve m.weapon) : Int) ≤ m.max))

/-- The loadouts that obey the constraints of all options. -/
def applyConstraints (ls : List Loadout) (os : List ParsedOption) (r : Resolver) : List Loadout :=
  ls.filter (allowed os r)

end Muster.Wargear
