/-
  Mechanics: rule effects with the conditions under which they apply.

  A mechanic is either a single EFFECT (a modifier to a roll, a re-roll, a characteristic set to a
  number, …) or a CONDITIONAL, a gate around further mechanics.  Both carry the same frame: whom
  they speak of, their conditions, and their source.  Conditionals nest to any depth, so functions
  on mechanics come in pairs, one for a mechanic and one for a list of them.

  In a document a mechanic is an object whose `kind` names the variant.  A problem below it has the
  kind as a part of its path, so that a reader of the message knows what was expected there.
  Reading goes on however deep a document nests: the guard of a validator, which refuses a value some
  hundreds of levels down, is left out.

  A critical threshold is a number from 2 to 6, and the type says so.
-/
import Muster.Combat.Condition
import Muster.Combat.Source
import Muster.Document.Json

namespace Muster.Combat

open Text Document

/-! ## Effects -/

/-- Which failed dice may be rolled again. -/
inductive RerollScope where
  | ones
  | failed
  | all
deriving Repr, DecidableEq

/-- Which modifiers are ignored. -/
inductive IgnoreScope where
  | all
  | penalties
  | bonuses
  | cover
deriving Repr, DecidableEq

/-- A number from 2 to 6 that a die must reach. -/
structure Threshold where
  value : Int
  two_le : 2 ≤ value
  le_six : value ≤ 6
deriving Repr, DecidableEq

/-- What a mechanic does. -/
inductive Effect where
  /-- A signed modifier to a roll. -/
  | modifier (roll : Roll) (value : Int)
  | reroll (roll : Roll) (scope : RerollScope)
  /-- Modifiers to a roll that do not count. -/
  | ignore (roll : Roll) (scope : IgnoreScope)
  | autoSuccess (roll : Roll)
  /-- Dice of the threshold or more succeed whatever the target is. -/
  | criticalThreshold (roll : Roll) (value : Threshold)
  /-- A characteristic set to a value. -/
  | staticNumber (characteristic : String) (value : IntegerOrText)
  /-- A number added to a characteristic. -/
  | characteristicBonus (characteristic : String) (value : Int)
  | addsKeyword (keywords : List String)
  /-- Abilities granted, with the parameter that one of them takes. -/
  | addsAbility (abilities : List String) (value : Option IntegerOrText)
  | mortalWounds (value : IntegerOrText)
deriving Repr, DecidableEq

/-- The name of a kind of effect. -/
def Effect.kind : Effect → String
  | modifier .. => "modifier"
  | reroll .. => "reroll"
  | ignore .. => "ignore"
  | autoSuccess .. => "auto-success"
  | criticalThreshold .. => "critical-threshold"
  | staticNumber .. => "static-number"
  | characteristicBonus .. => "characteristic-bonus"
  | addsKeyword .. => "adds-keyword"
  | addsAbility .. => "adds-ability"
  | mortalWounds .. => "mortal-wounds"

/-- The roll that an effect touches, if it touches one. -/
def Effect.roll? : Effect → Option Roll
  | modifier r _ => some r
  | reroll r _ => some r
  | ignore r _ => some r
  | autoSuccess r => some r
  | criticalThreshold r _ => some r
  | _ => none

/-! ## Mechanics -/

/-- What all mechanics have. -/
structure Frame where
  entity : Entity
  conditions : List Condition
  source : Option Source
deriving Repr, DecidableEq

/-- The frame of a mechanic that states nothing. -/
def Frame.plain : Frame := ⟨.thisUnit, [], none⟩

/-- An effect, or a gate around further mechanics. -/
inductive Mechanic where
  | effect (frame : Frame) (effect : Effect)
  | conditional (frame : Frame) (mechanics : List Mechanic)

namespace Mechanic

/-- The frame of a mechanic. -/
def frame : Mechanic → Frame
  | effect f _ => f
  | conditional f _ => f

/-- The name of the conditional kind. -/
def conditionalKind : String := "conditional"

/-- The kind of a mechanic. -/
def kind : Mechanic → String
  | effect _ e => e.kind
  | conditional .. => conditionalKind

/-- The roll that a mechanic touches itself. -/
def roll? : Mechanic → Option Roll
  | effect _ e => e.roll?
  | conditional .. => none

/-- Whether a mechanic speaks of its owner's side. -/
def isOwn (m : Mechanic) : Bool := m.frame.entity.isOwn

/-- A mechanic with another source. -/
def withSource (s : Source) : Mechanic → Mechanic
  | effect f e => effect { f with source := some s } e
  | conditional f ms => conditional { f with source := some s } ms

mutual

/-- Equality of mechanics. -/
def same : Mechanic → Mechanic → Bool
  | effect f e, effect g d => f == g && e == d
  | conditional f ms, conditional g ns => f == g && sameAll ms ns
  | _, _ => false

/-- Equality of lists of mechanics. -/
def sameAll : List Mechanic → List Mechanic → Bool
  | [], [] => true
  | m :: ms, n :: ns => same m n && sameAll ms ns
  | _, _ => false

end

end Mechanic

/-! ## Writing -/

/-- The names of the re-roll scopes. -/
def rerollScopes : List (String × RerollScope) := [
  ("ones", .ones), ("failed", .failed), ("all", .all)]

/-- The names of the ignore scopes. -/
def ignoreScopes : List (String × IgnoreScope) := [
  ("all", .all), ("penalties", .penalties), ("bonuses", .bonuses), ("cover", .cover)]

/-- The fields of a frame. -/
def Frame.fields (f : Frame) : List (String × Value) := [
  ("entity", .text f.entity.name), ("conditions", .ofList Condition.toValue f.conditions),
  ("source", .ofOption Source.toValue f.source)]

/-- The fields of an effect. -/
def Effect.fields : Effect → List (String × Value)
  | modifier r n => [("attribute", r.toValue), ("value", .int n)]
  | reroll r s => [("attribute", r.toValue), ("scope", .named rerollScopes s)]
  | ignore r s => [("attribute", r.toValue), ("scope", .named ignoreScopes s)]
  | autoSuccess r => [("attribute", r.toValue)]
  | criticalThreshold r t => [("attribute", r.toValue), ("value", .int t.value)]
  | staticNumber c v => [("characteristic", .text c), ("value", .ofIntegerOrText v)]
  | characteristicBonus c n => [("characteristic", .text c), ("value", .int n)]
  | addsKeyword ks => [("keywords", .texts ks)]
  | addsAbility as v => [("abilities", .texts as), ("value", .ofOption .ofIntegerOrText v)]
  | mortalWounds v => [("value", .ofIntegerOrText v)]

mutual

/-- A mechanic as a document value. -/
def Mechanic.toValue : Mechanic → Value
  | .effect f e => .ofFields (f.fields ++ ("kind", .text e.kind) :: e.fields)
  | .conditional f ms => .ofFields (f.fields ++ [
      ("kind", .text Mechanic.conditionalKind), ("mechanics", .list (mechanicValues ms))])

/-- Mechanics as document values. -/
def mechanicValues : List Mechanic → List Value
  | [] => []
  | m :: ms => m.toValue :: mechanicValues ms

end

/-- A list of mechanics as a document value. -/
def mechanicsValue (ms : List Mechanic) : Value := .list (mechanicValues ms)

/-- The number of bytes of the compact form of a list of mechanics. -/
def mechanicsSize (ms : List Mechanic) : Nat := Json.size (mechanicsValue ms)

/-! ## Reading -/

/-- A number as a threshold. -/
def Threshold.check (n : Int) : Checked Threshold :=
  if low : 2 ≤ n then
    if high : n ≤ 6 then .ok ⟨n, low, high⟩ else .refuse .lessThanEqual
  else .refuse .greaterThanEqual

/-- A threshold from a document value. -/
def Threshold.read : Reader Threshold := fun v => (integer v).andThen Threshold.check

/-- A frame from the fields of a mechanic. -/
def Frame.read (v : Value) : Checked Frame :=
  Frame.mk
    <$> optional v "entity" .thisUnit (oneOf entityNames .literalError)
    <*> optional v "conditions" [] (listOf Condition.read)
    <*> optional v "source" none (nullable Source.read)

/-- The readings of the kinds of effects. -/
def effectReaders : List (String × (Value → Checked Effect)) := [
  ("modifier", fun v =>
    Effect.modifier <$> required v "attribute" Roll.read <*> required v "value" integer),
  ("reroll", fun v =>
    Effect.reroll <$> required v "attribute" Roll.read
      <*> optional v "scope" .all (oneOf rerollScopes .literalError)),
  ("ignore", fun v =>
    Effect.ignore <$> required v "attribute" Roll.read
      <*> optional v "scope" .penalties (oneOf ignoreScopes .literalError)),
  ("auto-success", fun v => Effect.autoSuccess <$> required v "attribute" Roll.read),
  ("critical-threshold", fun v =>
    Effect.criticalThreshold <$> required v "attribute" Roll.read
      <*> required v "value" Threshold.read),
  ("static-number", fun v =>
    Effect.staticNumber <$> required v "characteristic" text <*> required v "value" integerOrText),
  ("characteristic-bonus", fun v =>
    Effect.characteristicBonus <$> required v "characteristic" text
      <*> required v "value" integer),
  ("adds-keyword", fun v => Effect.addsKeyword <$> required v "keywords" (listOf text)),
  ("adds-ability", fun v =>
    Effect.addsAbility <$> required v "abilities" (listOf text)
      <*> optional v "value" none (nullable integerOrText)),
  ("mortal-wounds", fun v => Effect.mortalWounds <$> required v "value" integerOrText)]

/-- A mechanic from an object, given the reading of the mechanics it holds, if it holds any. -/
def mechanicFrom (v : Value) (nested : Option (Checked (List Mechanic))) : Checked Mechanic :=
  match v.field? "kind" with
  | none => .refuse .unionTagNotFound
  | some (.text kind) =>
    if kind == Mechanic.conditionalKind then
      (Mechanic.conditional <$> Frame.read v
        <*> ((nested.getD (.ok [])).within "mechanics")).within kind
    else match effectReaders.lookup kind with
      | some read => (Mechanic.effect <$> Frame.read v <*> read v).within kind
      | none => .refuse .unionTagInvalid
  | some _ => .refuse .unionTagInvalid

mutual

/-- A mechanic from a document value. -/
def Mechanic.read : Value → Checked Mechanic
  | .object fs => mechanicFrom (.object fs) (nestedMechanics fs)
  | _ => .refuse .modelAttributesType

/-- The mechanics that an object holds, if it has the field for them. -/
def nestedMechanics : List (Key × Value) → Option (Checked (List Mechanic))
  | [] => none
  | (k, v) :: fs => if k == .text "mechanics" then some (readMechanics v) else nestedMechanics fs

/-- A list of mechanics from a document value. -/
def readMechanics : Value → Checked (List Mechanic)
  | .list vs => mechanicsFrom 0 vs
  | _ => .refuse .listType

/-- The mechanics of a list from an index on. -/
def mechanicsFrom : Nat → List Value → Checked (List Mechanic)
  | _, [] => .ok []
  | i, v :: vs =>
    (fun m ms => m :: ms) <$> (Mechanic.read v).within (String.ofList (numeral i))
      <*> mechanicsFrom (i + 1) vs

end

/-- Whether reading the written form of mechanics gives them back. -/
def roundTrips (ms : List Mechanic) : Bool :=
  match readMechanics (mechanicsValue ms) with
  | .ok ns => Mechanic.sameAll ms ns
  | .bad _ => false

/-! ## Selecting -/

/-- The positions of the mechanics that touch a roll. -/
def positionsByRoll (r : Roll) (ms : List Mechanic) : List Nat :=
  (ms.zipIdx.filter fun p => p.1.roll? == some r).map Prod.snd

/-- The positions of the mechanics of a kind. -/
def positionsByKind (k : String) (ms : List Mechanic) : List Nat :=
  (ms.zipIdx.filter fun p => p.1.kind == k).map Prod.snd

end Muster.Combat
