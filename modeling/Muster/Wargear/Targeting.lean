/-
  Targeting: which models an option applies to.

  A sentence opens with the models it speaks of: "This model", "The Sergeant's …", "For every 5
  models in this unit, …".  The eighteen rules of `targetingRules` read these openings.  The KIND of
  a targeting is the name of the rule that matched; its TYPE is the coarser class on which loadouts
  and eligibility depend, so that the two rules on unit size share one.

  The first two rules catch what is never actionable, the word "None" and footnotes, before any
  other can: "* This model can …" is a footnote and not a targeting of this model.
-/
import Muster.Wargear.Rule

namespace Muster.Wargear

open Text

/-- The gate of an option that needs items to be held: one name or several. -/
structure EquippedCondition where
  weaponName : Option String
  weaponNames : List String
deriving Repr, DecidableEq

/-- The item names that must all be held. -/
def EquippedCondition.requiredNames (c : EquippedCondition) : List String :=
  if !c.weaponNames.isEmpty then c.weaponNames
  else match c.weaponName with
    | some n => if n.isEmpty then [] else [n]
    | none => []

/-- Who an option applies to. -/
structure Targeting where
  kind : String
  type : String
  modelType : Option String
  count : Option Int
  ratio : Option Int
  maxPerRatio : Option Int
  maxTotal : Option Int
  unitSizeThreshold : Option Int
  condition : Option EquippedCondition
deriving Repr, DecidableEq

namespace Targeting

/-- The targeting of a kind and a type that says no more. -/
def plain (kind type : String) : Targeting := ⟨kind, type, none, none, none, none, none, none, none⟩

/-- The targeting of a sentence that no rule reads. -/
def unknown : Targeting := plain "unknown" "unknown"

/-- Whether some rule read the sentence. -/
def isKnown (t : Targeting) : Bool := t.type != "unknown"

end Targeting

/-! ## Readings -/

/-- The trimmed text of a group. -/
def groupName (m : Pattern.Match) (n : Nat) : String := String.ofList (trim (m.group n))

/-- The count in a group. -/
def groupCount (m : Pattern.Match) (n : Nat) : Except UnreadCount Int :=
  (readCount (m.group n)).map Int.ofNat

/-- The condition that a phrase of one item, or of two joined by "and", states. -/
def equippedCondition (s : List Char) : EquippedCondition :=
  let pair : Pattern :=
    .phrase 1 ++ .gap ++ .text "and" ++ .gap ++ .group 2 (.longest Pattern.inLine)
  match pair.matchStart s with
  | some m => ⟨none, [groupName m 1, groupName m 2]⟩
  | none => ⟨some (String.ofList (trim s)), []⟩

/-! ## The table -/

/-- A rule that says nothing beyond its kind and type. -/
def plainTargeting (name type : String) (p : Pattern) : Rule Targeting :=
  ⟨name, none, p, fun _ _ => .ok (.plain name type)⟩

/-- A rule that reads groups. -/
def targeting (name : String) (p : Pattern)
    (read : Pattern.Match → Except UnreadCount Targeting) : Rule Targeting :=
  ⟨name, none, p, fun m _ => read m⟩

/-- "models in this unit", or "the unit". -/
def modelsInUnit : Pattern :=
  .text " models in " ++ (.text "this" <|> .text "the") ++ .text " unit"

/-- The openings of option sentences, most specific first where one begins another. -/
def targetingRules : List (Rule Targeting) := [
  ⟨"none", none, .textStart ++ .text "none" ++ .opt (.char '.') ++ .textEnd,
    fun _ _ => .ok .unknown⟩,
  ⟨"footnote", none, .textStart ++ .char '*' ++ .one isBlank, fun _ _ => .ok .unknown⟩,
  targeting "if-unit-size"
    (.textStart ++ .text "if this unit contains " ++ .opt (.text "between ") ++ countAs 1
      ++ .opt (.text " and " ++ countAs 2) ++ .text " models")
    fun m => do
      return { Targeting.plain "if-unit-size" "if-unit-size" with
        unitSizeThreshold := some (← groupCount m 1) },
  targeting "if-unit-size-threshold"
    (.textStart ++ .text "if this unit contains " ++ countAs 1 ++ .text " or "
      ++ (.text "more" <|> .text "fewer") ++ .text " models")
    fun m => do
      return { Targeting.plain "if-unit-size-threshold" "if-unit-size" with
        unitSizeThreshold := some (← groupCount m 1) },
  targeting "if-model-equipped"
    (.textStart ++ .text "if this unit" ++ .opt (.char '\'') ++ .opt (.char 's') ++ .gap
      ++ .phrase 1 ++ .gap ++ .text "is equipped with")
    fun m => .ok { Targeting.plain "if-model-equipped" "conditional" with
      modelType := some (groupName m 1), condition := some ⟨none, []⟩ },
  targeting "conditional-equipped"
    (.textStart ++ .text "if " ++ .opt (.text "this model is ") ++ .text "equipped with "
      ++ .phrase 1 ++ .char ',')
    fun m => .ok { Targeting.plain "conditional-equipped" "conditional" with
      condition := some (equippedCondition (m.group 1)) },
  plainTargeting "this-unit" "this-unit" (.textStart ++ .text "this unit can be equipped"),
  plainTargeting "all-models" "all-models"
    (.textStart ++ .text "all " ++ .opt (.text "of the ") ++ .text "models in this unit"),
  targeting "ratio-capped"
    (.textStart ++ .text "for every " ++ countAs 1 ++ modelsInUnit ++ .opt (.char ',') ++ .char ' '
      ++ .many Pattern.inLine false ++ .text "up to " ++ countAs 2)
    fun m => do
      return { Targeting.plain "ratio-capped" "ratio-capped" with
        ratio := some (← groupCount m 1), maxPerRatio := some (← groupCount m 2) },
  targeting "ratio-with-model-type"
    (.textStart ++ .text "for every " ++ countAs 1 ++ modelsInUnit ++ .opt (.char ',') ++ .gap
      ++ countAs 2 ++ .gap ++ .name 3 ++ .text "'s")
    fun m => do
      return { Targeting.plain "ratio-with-model-type" "ratio" with
        ratio := some (← groupCount m 1), count := some (← groupCount m 2),
        modelType := some (groupName m 3) },
  targeting "ratio" (.textStart ++ .text "for every " ++ countAs 1 ++ .text " models")
    fun m => do
      return { Targeting.plain "ratio" "ratio" with ratio := some (← groupCount m 1) },
  plainTargeting "any-number" "any-number"
    (.textStart ++ .text "any number of " ++ (.text "models" <|> .longest Pattern.inName)),
  targeting "up-to-n" (.textStart ++ .text "up to " ++ countAs 1)
    fun m => do
      return { Targeting.plain "up-to-n" "up-to-n" with maxTotal := some (← groupCount m 1) },
  targeting "each-model-type"
    (.textStart ++ .text "each " ++ .name 1 ++ (.text "'s" <|> .gap ++ .text "can"))
    fun m => .ok { Targeting.plain "each-model-type" "each-model-type" with
      modelType := some (groupName m 1) },
  ⟨"specific-model-dual", some "can be replaced",
    .textStart ++ .text "the " ++ .name 1 ++ .text "'s" ++ .gap ++ .phrase 2 ++ .gap ++ .text "and"
      ++ .gap ++ .phrase 3 ++ .gap ++ .text "can be replaced",
    fun m _ => .ok { Targeting.plain "specific-model-dual" "specific-model" with
      modelType := some (groupName m 1) }⟩,
  targeting "specific-model"
    (.textStart ++ .text "the " ++ .name 1 ++ (.text "'s" <|> .gap ++ .text "can"))
    fun m => .ok { Targeting.plain "specific-model" "specific-model" with
      modelType := some (groupName m 1) },
  targeting "n-model-specific"
    (.textStart ++ countAs 1 ++ .gap ++ .name 2
      ++ (.text "'s" <|> .gap ++ .text "can"
        <|> .gap ++ .opt (.text "model" ++ .gap) ++ .opt (.text "already" ++ .gap)
          ++ .text "equipped"))
    fun m => do
      return { Targeting.plain "n-model-specific" "n-model-specific" with
        count := some (← groupCount m 1), modelType := some (groupName m 2) },
  plainTargeting "this-model" "this-model"
    (.textStart ++ .text "this model" ++ .opt (.text "'s" <|> .gap ++ .text "can"))]

/-- Which models a text applies to. -/
def classifyTargeting (s : List Char) : Except LongNumeral Targeting :=
  classify .unknown (sentence s) targetingRules

end Muster.Wargear
