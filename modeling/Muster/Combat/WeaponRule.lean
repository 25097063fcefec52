/-
  Weapon rules: what is printed behind a weapon, such as `HEAVY` or `RAPID FIRE 2`.

  A rule is read from its text in upper case, without the blanks around it.  It comes to up to two
  things:
    (1) a MECHANIC of the attacker, with the weapon as its source;
    (2) an EFFECT for display, which also rules have that change no roll.
  A text that is no rule comes to neither.

  The number of a rule that takes one is the first run of digits behind the rule's name, and 1 if
  there is none.  A text is refused for one of two causes (`RuleError`): that number is too long to
  be read, or an anti rule has a threshold that no die can have to reach.
-/
import Muster.Combat.Mechanic
import Muster.Text.Pattern

namespace Muster.Combat

open Text Document

/-- A rule of a weapon. -/
inductive WeaponRule where
  | torrent
  | heavy
  | lance
  | twinLinked
  | ignoresCover
  | rapidFire (n : Nat)
  | melta (n : Nat)
  | lethalHits
  | devastatingWounds
  | sustainedHits (n : Nat)
  /-- Wound rolls against targets with a keyword are critical from a threshold on. -/
  | anti (keyword : List Char) (threshold : Nat)
  /-- A rule that is shown, under this name, and changes no roll. -/
  | shown (name : String)
deriving Repr, DecidableEq

namespace WeaponRule

/-! ## Texts -/

/-- The rules without a parameter. -/
def plainRules : List (String × WeaponRule) := [
  ("TORRENT", torrent), ("HEAVY", heavy), ("LANCE", lance), ("TWIN-LINKED", twinLinked),
  ("IGNORES COVER", ignoresCover), ("LETHAL HITS", lethalHits),
  ("DEVASTATING WOUNDS", devastatingWounds), ("ASSAULT", shown "assault"),
  ("PRECISION", shown "precision"), ("HAZARDOUS", shown "hazardous"), ("BLAST", shown "blast"),
  ("INDIRECT FIRE", shown "indirect-fire"), ("PISTOL", shown "pistol"),
  ("EXTRA ATTACKS", shown "extra-attacks"), ("ONE SHOT", shown "one-shot"),
  ("PSYCHIC", shown "psychic")]

/-- The rules with a number behind their name. -/
def numberedRules : List (String × (Nat → WeaponRule)) := [
  ("RAPID FIRE", rapidFire), ("MELTA", melta), ("SUSTAINED HITS", sustainedHits)]

/-- The first number in a text, 1 if there is none. -/
def firstNumber (s : List Char) : Except LongNumeral Nat :=
  match (s.dropWhile (!isDecimal ·)).takeWhile isDecimal with
  | [] => .ok 1
  | ds => readNumeral ds

/-- The name that begins an anti rule. -/
def antiName : List Char := "ANTI-".toList

/-- What follows the name of an anti rule: a keyword, group 1, and a digit with a plus, group 2. -/
def antiRest : Pattern :=
  .phrase 1 ++ .gap ++ .group 2 (.one isDecimal) ++ .char '+' ++ .textEnd

/-- An anti rule. -/
def anti? (s : List Char) : Option WeaponRule :=
  if begins antiName s then
    (antiRest.matchStart (s.drop antiName.length)).map fun m =>
      anti (trim (m.group 1)) (decimalValue (m.group 2))
  else none

/-- A rule with a number behind its name. -/
def numbered? (s : List Char) : Except LongNumeral (Option WeaponRule) :=
  match numberedRules.find? fun r => begins r.1.toList s with
  | none => .ok none
  | some r => do
    let n ← firstNumber (s.drop r.1.toList.length)
    return some (r.2 n)

/-- The spelling by which a rule is told: upper case, without the blanks around it. -/
def spelling (s : String) : List Char := trim (upper s.toList)

/-- The rule of a spelling. -/
def ofSpelling? (s : List Char) : Except LongNumeral (Option WeaponRule) :=
  match plainRules.lookup (String.ofList s) with
  | some rule => .ok (some rule)
  | none => (numbered? s).map (·.or (anti? s))

/-! ## Mechanics -/

/-- The condition that a unit is in a state. -/
def inState (e : Entity) (state : String) : Condition :=
  ⟨e, some state, none, [], [], .equals, .flag true⟩

/-- The condition that the target has a keyword. -/
def targetHas (keyword : String) : Condition :=
  ⟨.targetUnit, none, none, [keyword], [], .includes, .text keyword⟩

/-- The mechanic of a rule, if it has one. -/
def mechanic? (source : Source) (rule : WeaponRule) : Checked (Option Mechanic) :=
  let own := fun (conditions : List Condition) (e : Effect) =>
    some (Mechanic.effect ⟨.thisUnit, conditions, some source⟩ e)
  match rule with
  | torrent => .ok (own [] (.autoSuccess .hit))
  | heavy => .ok (own [inState .thisUnit "isStationary"] (.modifier .hit 1))
  | lance => .ok (own [inState .thisUnit "hasChargedThisTurn"] (.modifier .wound 1))
  | twinLinked => .ok (own [] (.reroll .wound .all))
  | ignoresCover =>
    .ok (some (.effect ⟨.targetUnit, [], some source⟩ (.ignore .save .cover)))
  | rapidFire n => .ok (own [inState .targetUnit "inHalfRange"] (.characteristicBonus "a" n))
  | melta n => .ok (own [inState .targetUnit "inHalfRange"] (.characteristicBonus "d" n))
  | lethalHits => .ok (own [] (.addsAbility ["LETHAL HITS"] (some (.integer 1))))
  | devastatingWounds => .ok (own [] (.addsAbility ["DEVASTATING WOUNDS"] (some (.integer 1))))
  | sustainedHits n => .ok (own [] (.addsAbility ["SUSTAINED HITS"] (some (.integer n))))
  | anti keyword n =>
    (fun t => own [targetHas (String.ofList keyword)] (.criticalThreshold .wound t))
      <$> (Threshold.check n).within "value"
  | shown _ => .ok none

/-! ## Effects -/

/-- The parameter with which a rule is shown. -/
inductive Parameter where
  /-- The rule takes none. -/
  | none
  | number (n : Nat)
  | text (s : String)
deriving Repr, DecidableEq

/-- The name and the parameter with which a rule is shown. -/
def label : WeaponRule → String × Parameter
  | torrent => ("torrent", .none)
  | heavy => ("heavy", .none)
  | lance => ("lance", .none)
  | twinLinked => ("twin-linked", .none)
  | ignoresCover => ("ignores-cover", .none)
  | rapidFire n => ("rapid-fire", .number n)
  | melta n => ("melta", .number n)
  | lethalHits => ("lethal-hits", .none)
  | devastatingWounds => ("devastating-wounds", .none)
  | sustainedHits n => ("sustained-hits", .number n)
  | anti keyword n => ("anti", .text (String.ofList (keyword ++ ' ' :: numeral n ++ ['+'])))
  | shown name => (name, .none)

end WeaponRule

/-- A weapon rule for display. -/
structure RuleEffect where
  name : String
  parameter : WeaponRule.Parameter
  source : Source
deriving Repr, DecidableEq

/-- The mechanics of a weapon's rules and their effects, both in the order of the rules. -/
structure WeaponRules where
  mechanics : List Mechanic
  effects : List RuleEffect

/-- Why a weapon rule is refused. -/
inductive RuleError where
  | longNumeral (e : LongNumeral)
  | invalid (problems : List Problem)

namespace WeaponRules

/-- What one text comes to; `weapon` names the weapon. -/
def ofText (weapon : String) (s : String) : Except RuleError WeaponRules := do
  let spelled := WeaponRule.spelling s
  let source : Source := ⟨.weapon, weapon, none, some (String.ofList spelled)⟩
  match ← (WeaponRule.ofSpelling? spelled).mapError .longNumeral with
  | none => return ⟨[], []⟩
  | some rule =>
    let m ← (rule.mechanic? source).toExcept.mapError .invalid
    return ⟨m.toList, [⟨rule.label.1, rule.label.2, source⟩]⟩

/-- What the texts behind a weapon come to; the first that is refused refuses all. -/
def ofTexts (weapon : String) : List String → Except RuleError WeaponRules
  | [] => .ok ⟨[], []⟩
  | s :: ss => do
    let a ← ofText weapon s
    let b ← ofTexts weapon ss
    return ⟨a.mechanics ++ b.mechanics, a.effects ++ b.effects⟩

end WeaponRules

/-- Whether some rule's text begins with a name, case ignored. -/
def hasWeaponRule (texts : List String) (name : String) : Bool :=
  texts.any fun s => begins (upper name.toList) (upper s.toList)

/-! ## Writing -/

/-- A parameter as a document value; a rule without one is shown as true. -/
def WeaponRule.Parameter.toValue : WeaponRule.Parameter → Value
  | none => .bool true
  | number n => .int n
  | text s => .text s

/-- An effect as a document value. -/
def RuleEffect.toValue (e : RuleEffect) : Value := .ofFields [
  ("type", .text e.name), ("value", e.parameter.toValue), ("source", e.source.toValue)]

end Muster.Combat
