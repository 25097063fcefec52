/-
  Resolution: the numbers of one attack.

  The mechanics of both combatants, the weapon's rules and the mechanics of the situation are gated
  against what can be observed, and what takes part is folded into the answer:
    (1) keywords and abilities granted, in upper case and each once;
    (2) the profiles, first what is set and then what is raised;
    (3) each roll: its modifiers with their cap, those ignored, the strongest re-roll, automatic
        success, and the lowest critical threshold;
    (4) the target of each roll, from the changed profiles.  A target of 0 says that the roll
        succeeds by itself.

  **Stages.**  The effects of both combatants on keywords, abilities and profiles are sorted into one
  list by their stages, in which those of one stage keep their order, and gone through once.

  **Whose roll.**  Of the effects on a roll, its maker's own touch it where they work on their owner's
  side, and the other combatant's where they work on the opposing side.

  **What is ignored** is told among all modifiers of the roll, as they stand under the cap; the net
  is that of the others alone, or of all if none is ignored.  Cover is no modifier: ignoring it
  takes it from the save.
-/
import Muster.Combat.Collection
import Muster.Combat.Gate
import Muster.Combat.Profile
import Muster.Combat.RollTarget
import Muster.Combat.WeaponRule

namespace Muster.Combat

open Text Document

/-- Everything that the resolution of one attack depends on. -/
structure Request where
  attackerArmy : Army
  defenderArmy : Army
  weapon : WeaponProfile
  target : TargetProfile
  /-- Further mechanics of the attacker. -/
  situational : List Mechanic
  situation : Situation

/-! ## Observing -/

/-- A number or text as it is observed. -/
def observed (v : IntegerOrText) : Value := .ofIntegerOrText v

/-- The situation with the characteristics of the profiles and the target's keywords; what the
    situation itself says of a characteristic comes first. -/
def Request.observe (q : Request) : Situation where
  attacker := { q.situation.attacker with
    characteristics := q.situation.attacker.characteristics ++ [
      (.text "a", observed q.weapon.attacks), (.text "bs", .int q.weapon.skill),
      (.text "s", .int q.weapon.strength), (.text "ap", .int q.weapon.ap),
      (.text "d", observed q.weapon.damage)] }
  defender := { q.situation.defender with
    keywords := q.situation.defender.keywords ++ q.target.keywords
    characteristics := q.situation.defender.characteristics ++ [
      (.text "t", .int q.target.toughness), (.text "sv", .int q.target.save),
      (.text "invsv", .ofOption .int q.target.invulnerableSave),
      (.text "w", .int q.target.wounds)] }

/-! ## Stages -/

/-- The stage of an effect on keywords, abilities or profiles, and 0 for any other. -/
def Effect.stage : Effect → Nat
  | addsKeyword _ => 1
  | addsAbility _ _ => 2
  | staticNumber _ _ => 3
  | characteristicBonus _ _ => 4
  | _ => 0

/-- Puts an active effect behind all of the same or an earlier stage. -/
def insertStaged (a : Active) : List Active → List Active
  | [] => [a]
  | b :: bs => if a.effect.stage < b.effect.stage then a :: b :: bs else b :: insertStaged a bs

/-- The active effects that have a stage, stage by stage. -/
def staged (active : List Active) : List Active :=
  (active.filter fun a => a.effect.stage != 0).foldl (fun acc a => insertStaged a acc) []

/-! ## Keywords and abilities -/

/-- The keywords that an effect grants. -/
def Effect.keywords : Effect → List String
  | addsKeyword ks => ks
  | _ => []

/-- The abilities that an effect grants. -/
def Effect.abilities : Effect → List String
  | addsAbility as _ => as
  | _ => []

/-- What active effects grant a side, in upper case and each once. -/
def granted (names : Effect → List String) (side : Side) (active : List Active) : List String :=
  ((active.filter fun a => a.recipient == side).flatMap fun a =>
    (names a.effect).map fun s => String.ofList (upper s.toList)).eraseDups

/-- The name of the ability to ignore wounds. -/
def feelNoPainName : List Char := "FEEL NO PAIN".toList

/-- The number with which an effect lets wounds be ignored. -/
def Effect.feelNoPain? : Effect → Option Int
  | addsAbility as (some (.integer n)) =>
    if as.any fun a => occurs feelNoPainName (upper a.toList) then some n else none
  | _ => none

/-- The best number with which the target ignores wounds. -/
def feelNoPain (active : List Active) : Option Int :=
  (active.filterMap fun a =>
    if a.recipient == .defender then a.effect.feelNoPain? else none).min?

/-! ## Profiles -/

/-- The profiles of both combatants. -/
structure Profiles where
  weapon : WeaponProfile
  target : TargetProfile

/-- The profiles after a change to a side's: the attacker has the weapon, the defender is the
    target. -/
def Profiles.change (p : Profiles) (side : Side) (code : String) (c : Change) :
    Except LongNumeral Profiles :=
  match side with
  | .attacker => (p.weapon.change code c).map fun w => { p with weapon := w }
  | .defender => (p.target.change code c).map fun t => { p with target := t }

/-- The change that an effect makes to a characteristic. -/
def Effect.change? : Effect → Option (String × Change)
  | staticNumber c v => some (c, .set v)
  | characteristicBonus c n => some (c, .raise n)
  | _ => none

/-- The profiles after an active effect. -/
def Profiles.after (p : Profiles) (a : Active) : Except LongNumeral Profiles :=
  match a.effect.change? with
  | some c => p.change a.recipient c.1 c.2
  | none => .ok p

/-! ## Rolls -/

/-- Whether an active effect touches a roll. -/
def Active.touches (a : Active) (r : Roll) : Bool :=
  if a.effect.roll? != some r then false
  else if a.owner == r.maker then a.frame.entity.isOwn
  else !a.frame.entity.isOwn

/-- The active effects that touch a roll. -/
def touching (r : Roll) (active : List Active) : List Active := active.filter (·.touches r)

/-- The modifier that an active effect brings. -/
def Active.modifier? (a : Active) : Option Modifier :=
  match a.effect with
  | .modifier _ n => some ⟨n, a.frame.source.getD .unstated, none, false⟩
  | _ => none

/-- The scope of an effect that ignores modifiers. -/
def Effect.ignoring? : Effect → Option IgnoreScope
  | ignore _ s => some s
  | _ => none

/-- Whether a modifier falls within a scope. -/
def IgnoreScope.covers (s : IgnoreScope) (m : Modifier) : Bool :=
  match s with
  | all => true
  | penalties => m.value < 0
  | bonuses => m.value > 0
  | cover => false

/-- How strong a re-roll is. -/
def RerollScope.rank : RerollScope → Nat
  | ones => 1
  | failed => 2
  | all => 3

/-- The stronger one of two re-rolls; none is the weakest. -/
def strongerReroll (a b : Option RerollScope) : Option RerollScope :=
  if (b.map RerollScope.rank).getD 0 > (a.map RerollScope.rank).getD 0 then b else a

/-- The re-roll that an effect grants. -/
def Effect.reroll? : Effect → Option RerollScope
  | reroll _ s => some s
  | _ => none

/-- The threshold that an effect sets. -/
def Effect.threshold? : Effect → Option Int
  | criticalThreshold _ t => some t.value
  | _ => none

/-- Whether an effect makes a roll succeed by itself. -/
def Effect.succeeds : Effect → Bool
  | autoSuccess _ => true
  | _ => false

/-- What the active effects make of a roll, its target apart. -/
structure RollSummary where
  roll : Roll
  net : Int
  /-- All modifiers under the cap, the ignored ones too. -/
  modifiers : Capped
  ignored : List Modifier
  reroll : Option RerollScope
  autoSuccess : Bool
  critical : Int
  ignoresCover : Bool

/-- What effects that touch a roll make of it. -/
def summarize (s : Settings) (r : Roll) (relevant : List Active) : RollSummary :=
  let effects := relevant.map Active.effect
  let capped := cap s r (relevant.filterMap Active.modifier?)
  let scopes := effects.filterMap Effect.ignoring?
  let isIgnored := fun (m : Modifier) => scopes.any fun sc => sc.covers m
  let ignored := capped.modifiers.filter isIgnored
  { roll := r
    net := if ignored.isEmpty then capped.net
      else (cap s r (capped.modifiers.filter (!isIgnored ·))).net
    modifiers := capped
    ignored := ignored
    reroll := (effects.map Effect.reroll?).foldl strongerReroll none
    autoSuccess := effects.any Effect.succeeds
    critical := (effects.filterMap Effect.threshold?).min?.getD 6
    ignoresCover := scopes.contains .cover }

/-- What the active effects make of a roll. -/
def summarizeRoll (s : Settings) (active : List Active) (r : Roll) : RollSummary :=
  summarize s r (touching r active)

/-- A roll with its target. -/
structure ResolvedRoll where
  summary : RollSummary
  target : Int
  invulnerableUsed : Bool
  coverApplied : Bool

/-- A roll whose target is a number, or 0 if the roll succeeds by itself. -/
def RollSummary.withTarget (s : RollSummary) (target : Int) : ResolvedRoll :=
  ⟨s, if s.autoSuccess then 0 else target, false, false⟩

/-- A save with its target, or with 0 if it succeeds by itself. -/
def RollSummary.withSave (s : RollSummary) (t : SaveTarget) : ResolvedRoll :=
  if s.autoSuccess then ⟨s, 0, false, false⟩ else ⟨s, t.target, t.invulnerable, t.cover⟩

/-- The roll to hit with a weapon. -/
def hitRoll (s : RollSummary) (w : WeaponProfile) : ResolvedRoll :=
  s.withTarget (hitTarget w.skill s.net s.critical)

/-- The roll to wound a target with a weapon. -/
def woundRoll (s : RollSummary) (w : WeaponProfile) (t : TargetProfile) : ResolvedRoll :=
  s.withTarget (woundTarget w.strength t.toughness s.net s.critical)

/-- The roll to save against a weapon. -/
def saveRoll (s : RollSummary) (w : WeaponProfile) (t : TargetProfile) (inCover : Bool) :
    ResolvedRoll :=
  s.withSave (saveTarget t.save w.ap s.net t.invulnerableSave (inCover && !s.ignoresCover))

/-! ## The whole attack -/

/-- What an attack comes to. -/
structure Resolution where
  hit : ResolvedRoll
  wound : ResolvedRoll
  save : ResolvedRoll
  weapon : WeaponProfile
  target : TargetProfile
  feelNoPain : Option Int
  addedKeywords : Side → List String
  addedAbilities : Side → List String
  effects : List RuleEffect
  applied : List Mechanic
  notApplied : List Mechanic
  missing : List String

/-- Why an attack cannot be resolved. -/
inductive ResolutionError where
  | template (e : TemplateError)
  | weaponRule (e : RuleError)
  /-- A characteristic is set to a number too long to be read. -/
  | longNumeral (e : LongNumeral)

/-- The mechanics that take part in an attack, the attacker's before the defender's. -/
def Request.gated (q : Request) (attackers defenders : List Mechanic) : Gated :=
  let s := q.observe
  gateAll s .attacker none attackers ++ gateAll s .defender none defenders

/-- What an attack comes to, given what takes part in it. -/
def Request.settle (q : Request) (settings : Settings) (gated : Gated) (effects : List RuleEffect)
    (missing : List String) : Except LongNumeral Resolution := do
  let active := gated.active
  let inStages := staged active
  let profiles ← inStages.foldlM Profiles.after ⟨q.weapon, q.target⟩
  let weapon := profiles.weapon
  let target := profiles.target
  let summary := summarizeRoll settings active
  return {
    hit := hitRoll (summary .hit) weapon
    wound := woundRoll (summary .wound) weapon target
    save := saveRoll (summary .save) weapon target (q.situation.defender.hasState "inCover")
    weapon := weapon
    target := target
    feelNoPain := feelNoPain inStages
    addedKeywords := fun side => granted Effect.keywords side inStages
    addedAbilities := fun side => granted Effect.abilities side inStages
    effects := effects
    applied := gated.applied
    notApplied := gated.notApplied
    missing := missing }

/-- Resolves one attack. -/
def resolveAttack (core : CoreRegistry) (faction : FactionRegistry) (settings : Settings)
    (q : Request) : Except ResolutionError Resolution := do
  let attacker ← (collect core faction q.attackerArmy (some .attacker)).mapError .template
  let defender ← (collect core faction q.defenderArmy (some .defender)).mapError .template
  let rules ← (WeaponRules.ofTexts q.weapon.name q.weapon.rules).mapError .weaponRule
  let gated :=
    q.gated (attacker.mechanics ++ rules.mechanics ++ q.situational) defender.mechanics
  (q.settle settings gated rules.effects (attacker.missing ++ defender.missing)).mapError
    .longNumeral

/-! ## Records -/

/-- A request from a document value. -/
def Request.read : Reader Request := record fun v =>
  Request.mk
    <$> optional v "attacker_army" .none Army.read
    <*> optional v "defender_army" .none Army.read
    <*> required v "weapon" WeaponProfile.read
    <*> required v "target" TargetProfile.read
    <*> optional v "situational" [] readMechanics
    <*> optional v "situation" ⟨.none, .none⟩ Situation.read

/-- A request as a document value. -/
def Request.toValue (q : Request) : Value := .ofFields [
  ("attacker_army", q.attackerArmy.toValue), ("defender_army", q.defenderArmy.toValue),
  ("weapon", q.weapon.toValue), ("target", q.target.toValue),
  ("situational", mechanicsValue q.situational), ("situation", q.situation.toValue)]

/-- A re-roll as a document value. -/
def rerollValue : Option RerollScope → Value
  | none => .text "none"
  | some s => .named rerollScopes s

/-- A roll with its target as a document value. -/
def ResolvedRoll.toValue (r : ResolvedRoll) : Value := .ofFields [
  ("attribute", r.summary.roll.toValue), ("target", .int r.target),
  ("net_modifier", .int r.summary.net), ("modifiers", r.summary.modifiers.toValue),
  ("ignored", .ofList Modifier.toValue r.summary.ignored), ("reroll", rerollValue r.summary.reroll),
  ("auto_success", .bool r.summary.autoSuccess), ("critical_threshold", .int r.summary.critical),
  ("invulnerable_used", .bool r.invulnerableUsed), ("cover_applied", .bool r.coverApplied)]

/-- What belongs to each side as a document value. -/
def bySide (f : Side → List String) : Value :=
  .ofFields (sideNames.map fun s => (s.1, .texts (f s.2)))

/-- The outcome of an attack as a document value. -/
def Resolution.toValue (r : Resolution) : Value := .ofFields [
  ("hit", r.hit.toValue), ("wound", r.wound.toValue), ("save", r.save.toValue),
  ("weapon", r.weapon.toValue), ("target", r.target.toValue),
  ("feel_no_pain", .ofOption .int r.feelNoPain), ("added_keywords", bySide r.addedKeywords),
  ("added_abilities", bySide r.addedAbilities),
  ("special_effects", .ofList RuleEffect.toValue r.effects),
  ("applied", mechanicsValue r.applied), ("not_applied", mechanicsValue r.notApplied),
  ("missing_references", .texts r.missing)]

end Muster.Combat
