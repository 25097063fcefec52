/-
  Resolution: an attack in two parts, and what they take from the mechanics of the situation.

  1. What the armies and the weapon BRING does not depend on the mechanics of the situation
     (`resolveAttack_eq`).  These enter where everything is gated, and what is gated is settled.

  2. The numbers of an attack depend on the active effects alone, and of these on everything but
     their conditions (`settle_congr`): each stage reads owner, entity, source and effect.

  3. So trees of conditionals may be replaced by their leaves, whose active effects are the same up
     to conditions.  Only the record of what was applied and what was not tells them apart.
-/
import Mathlib
import Muster.Combat.Resolution
import Muster.Proofs.Combat.Gate
import Muster.Proofs.Combat.Stage

namespace Muster.Combat

open Text

/-! ## The two parts of an attack -/

/-- What the armies and the weapon bring to an attack. -/
structure Brought where
  attackers : List Mechanic
  defenders : List Mechanic
  effects : List RuleEffect
  missing : List String

/-- Collects what the armies and the weapon of a request bring. -/
def Request.brought (q : Request) (core : CoreRegistry) (faction : FactionRegistry) :
    Except ResolutionError Brought := do
  let attacker ← (collect core faction q.attackerArmy (some .attacker)).mapError .template
  let defender ← (collect core faction q.defenderArmy (some .defender)).mapError .template
  let rules ← (WeaponRules.ofTexts q.weapon.name q.weapon.rules).mapError .weaponRule
  return ⟨attacker.mechanics ++ rules.mechanics, defender.mechanics, rules.effects,
    attacker.missing ++ defender.missing⟩

/-- What a gate lets through in an attack, given what is brought. -/
def Request.gatedWith (q : Request) (b : Brought) : Gated :=
  q.gated (b.attackers ++ q.situational) b.defenders

/-- Settles an attack, given what is brought. -/
def Request.settleWith (q : Request) (settings : Settings) (b : Brought) :
    Except LongNumeral Resolution :=
  q.settle settings (q.gatedWith b) b.effects b.missing

/-- **An attack in two parts**: what is brought, and what is made of it. -/
theorem resolveAttack_eq (core : CoreRegistry) (faction : FactionRegistry) (settings : Settings)
    (q : Request) :
    resolveAttack core faction settings q = (do
      let b ← q.brought core faction
      (q.settleWith settings b).mapError .longNumeral) := by
  rw [resolveAttack, Request.brought]
  cases collect core faction q.attackerArmy (some .attacker) with
  | error e => rfl
  | ok attacker =>
    cases collect core faction q.defenderArmy (some .defender) with
    | error e => rfl
    | ok defender => cases WeaponRules.ofTexts q.weapon.name q.weapon.rules <;> rfl

/-! ## Conditions are of no account to the stages -/

theorem granted_bare (names : Effect → List String) (side : Side) (active : List Active) :
    granted names side (active.map Active.bare) = granted names side active := by
  rw [granted, granted, List.filter_map, List.flatMap_map]
  rfl

theorem feelNoPain_bare (active : List Active) :
    feelNoPain (active.map Active.bare) = feelNoPain active := by
  rw [feelNoPain, feelNoPain, List.filterMap_map]
  rfl

theorem staged_bare (active : List Active) :
    staged (active.map Active.bare) = (staged active).map Active.bare := by
  rw [staged_eq, staged_eq, ofStages, ofStages, List.map_flatMap]
  simp only [List.filter_map]
  rfl

theorem foldlM_after_bare (p : Profiles) (active : List Active) :
    (active.map Active.bare).foldlM Profiles.after p = active.foldlM Profiles.after p :=
  List.foldlM_map

theorem touching_bare (r : Roll) (active : List Active) :
    touching r (active.map Active.bare) = (touching r active).map Active.bare := by
  rw [touching, touching, List.filter_map]
  rfl

theorem summarizeRoll_bare (settings : Settings) (active : List Active) (r : Roll) :
    summarizeRoll settings (active.map Active.bare) r = summarizeRoll settings active r := by
  have hmodifiers : ∀ relevant : List Active,
      (relevant.map Active.bare).filterMap Active.modifier? = relevant.filterMap Active.modifier? :=
    fun _ => List.filterMap_map
  have heffects : ∀ relevant : List Active,
      (relevant.map Active.bare).map Active.effect = relevant.map Active.effect :=
    fun _ => List.map_map
  rw [summarizeRoll, summarizeRoll, touching_bare, summarize, summarize, hmodifiers, heffects]

/-- An outcome without the record of what was applied and what was not. -/
def Resolution.withoutRecord (r : Resolution) : Resolution :=
  { r with applied := [], notApplied := [] }

/-- **Attacks with the same active effects come to the same**, up to conditions of effects and the
    record of what was applied. -/
theorem settle_congr {q : Request} {settings : Settings} {g h : Gated} {effects : List RuleEffect}
    {missing : List String} (hactive : g.active.map Active.bare = h.active.map Active.bare) :
    (q.settle settings g effects missing).map Resolution.withoutRecord
      = (q.settle settings h effects missing).map Resolution.withoutRecord := by
  have hstaged : (staged g.active).map Active.bare = (staged h.active).map Active.bare := by
    rw [← staged_bare, hactive, staged_bare]
  have hprofiles : ∀ p, (staged g.active).foldlM Profiles.after p
      = (staged h.active).foldlM Profiles.after p := by
    intro p
    rw [← foldlM_after_bare, hstaged, foldlM_after_bare]
  have hsummary : summarizeRoll settings g.active = summarizeRoll settings h.active := by
    funext r
    rw [← summarizeRoll_bare, hactive, summarizeRoll_bare]
  have hgranted : ∀ names side,
      granted names side (staged g.active) = granted names side (staged h.active) := by
    intro names side
    rw [← granted_bare, hstaged, granted_bare]
  have hwounds : feelNoPain (staged g.active) = feelNoPain (staged h.active) := by
    rw [← feelNoPain_bare, hstaged, feelNoPain_bare]
  unfold Request.settle
  dsimp only
  rw [hprofiles, hsummary, hwounds]
  simp only [hgranted]
  cases (staged h.active).foldlM Profiles.after ⟨q.weapon, q.target⟩ <;> rfl

/-! ## Conditionals and their leaves -/

/-- A request whose situational conditionals are replaced by their leaves. -/
def Request.unwrapped (q : Request) : Request := { q with situational := leaves q.situational }

/-- Unwrapping keeps the active effects, up to conditions. -/
theorem active_gatedWith_unwrapped (q : Request) (b : Brought) :
    (q.unwrapped.gatedWith b).active.map Active.bare = (q.gatedWith b).active.map Active.bare := by
  have hleaves : (gateAll q.observe .attacker none (leaves q.situational)).active.map Active.bare
      = (gateAll q.observe .attacker none q.situational).active.map Active.bare := by
    have htrees : gateAll q.observe .attacker none q.situational
        = met q.observe .attacker (nodesAll [] q.situational) :=
      gateAll_eq_met [] rfl q.situational
    rw [htrees]
    exact active_gateAll_leaves (nodesAll [] q.situational)
  show (gateAll q.observe .attacker none (b.attackers ++ leaves q.situational)
      ++ gateAll q.observe .defender none b.defenders).active.map Active.bare = _
  rw [Request.gatedWith, Request.gated, gateAll_append, gateAll_append]
  simp only [Gated.active_append, List.map_append, hleaves]

/-- **Conditional mechanics unwrap exactly.**  Of a tree, a gate makes active exactly the effects
    whose own conditions and all conditions around them hold, in reading order and each with the
    nearest source that is stated.  It records each node whose surroundings hold once, as applied or
    as not applied, and nothing within a conditional that fails.  So a request comes to the same if
    its situational conditionals are replaced by their leaves. -/
theorem gate_unwraps :
    (∀ (s : Situation) (owner : Side) (m : Mechanic),
      (gate s owner none m).active
          = ((nodes [] m).filter (Node.passes s owner)).filterMap (Node.active? owner) ∧
      (gate s owner none m).applied = ((nodes [] m).filter (Node.passes s owner)).map Node.sourced ∧
      (gate s owner none m).notApplied
          = ((nodes [] m).filter (Node.fails s owner)).map Node.sourced ∧
      ((gate s owner none m).applied ++ (gate s owner none m).notApplied).Perm
        (((nodes [] m).filter (Node.reached s owner)).map Node.sourced)) ∧
    ∀ (core : CoreRegistry) (faction : FactionRegistry) (settings : Settings) (q : Request),
      (resolveAttack core faction settings q.unwrapped).map Resolution.withoutRecord
        = (resolveAttack core faction settings q).map Resolution.withoutRecord := by
  refine ⟨fun s owner m => ?_, fun core faction settings q => ?_⟩
  · have hmet : gate s owner none m = met s owner (nodes [] m) := gate_eq_met [] rfl m
    rw [hmet]
    exact ⟨rfl, rfl, rfl, recorded_perm (nodes [] m)⟩
  · rw [resolveAttack_eq, resolveAttack_eq]
    show Except.map _ (q.brought core faction >>= _) = _
    cases q.brought core faction with
    | error e => rfl
    | ok b =>
      have hsettle : (q.unwrapped.settleWith settings b).map Resolution.withoutRecord
          = (q.settleWith settings b).map Resolution.withoutRecord :=
        settle_congr (q := q) (active_gatedWith_unwrapped q b)
      show ((q.unwrapped.settleWith settings b).mapError _).map _
        = ((q.settleWith settings b).mapError _).map _
      rw [map_mapError, map_mapError, hsettle]

end Muster.Combat
