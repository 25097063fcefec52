/-
  Collection: what an army brings, accounted for item by item, and when nothing can be collected.

  1. **Specification.**  An ORIGIN is a mechanic as it is written down, with the source that it is
     to be shown with.  `Tagged` says what may be done to it: its own source is replaced, and
     nothing else, so the mechanics within a conditional keep theirs.  An OUTCOME is what becomes of
     one reference: it brings origins or it is reported, never both and never neither.

  2. **Account.**  The mechanics collected are the origins of all parts, tagged one by one, and the
     reports are those of the outcomes, in the order of the references (`collect_accounts`).  Two
     roles differ in the last part only, for no other part knows the role.

  3. **Failure.**  A reference that is not known, or whose mechanics are not valid, has an outcome.
     What has none is a parameter that cannot be put into the templates at all: a number too long
     to be read, a template that nests too deep to be copied, or one that holds something other than
     an object (`exists_fromCoreReference_iff`).  One such reference and nothing is collected
     (`exists_collect_iff`).
-/
import Mathlib
import Muster.Combat.Collection
import Muster.Proofs.Combat.Registry

namespace Muster.Combat

open Text Document

/-! ## Origins -/

/-- A mechanic as it is written down, and the source that it is to be shown with. -/
structure Origin where
  source : Source
  mechanic : Mechanic

/-- A mechanic that is as its origin has it, but for the source of its own. -/
inductive Tagged : Origin → Mechanic → Prop where
  | effect (s : Source) (f : Frame) (e : Effect) :
      Tagged ⟨s, .effect f e⟩ (.effect { f with source := some s } e)
  | conditional (s : Source) (f : Frame) (ms : List Mechanic) :
      Tagged ⟨s, .conditional f ms⟩ (.conditional { f with source := some s } ms)

/-- The mechanics of one source as origins. -/
def origins (s : Source) (ms : List Mechanic) : List Origin := ms.map (Origin.mk s)

/-- The mechanic that is shown for an origin. -/
def Origin.shown (o : Origin) : Mechanic := o.mechanic.withSource o.source

theorem Origin.tagged_shown (o : Origin) : Tagged o o.shown := by
  obtain ⟨s, m⟩ := o
  cases m with
  | effect f e => exact .effect s f e
  | conditional f ms => exact .conditional s f ms

theorem tagged_map_shown (os : List Origin) : List.Forall₂ Tagged os (os.map Origin.shown) :=
  List.forall₂_map_right_iff.mpr (List.forall₂_same.mpr fun o _ => o.tagged_shown)

theorem tag_eq (s : Source) (ms : List Mechanic) :
    tag s ms = (origins s ms).map Origin.shown := by
  rw [origins, List.map_map]
  rfl

/-- Mechanics that are tagged part by part. -/
theorem flatMap_tag {α : Type} (source : α → Source) (mechanics : α → List Mechanic)
    (as : List α) :
    (as.flatMap fun a => tag (source a) (mechanics a))
      = (as.flatMap fun a => origins (source a) (mechanics a)).map Origin.shown := by
  rw [List.map_flatMap]
  simp only [tag_eq]

/-! ## Outcomes of references -/

/-- What becomes of a reference: it brings mechanics, or it is reported. -/
inductive Outcome where
  | brought (os : List Origin)
  | reported (text : String)

namespace Outcome

/-- The mechanics that a reference brings. -/
def origins : Outcome → List Origin
  | brought os => os
  | reported _ => []

/-- The report of a reference, if it is reported. -/
def report? : Outcome → Option String
  | brought _ => none
  | reported text => some text

end Outcome

/-- What becomes of a reference to a core ability. -/
inductive CoreOutcome (core : CoreRegistry) (unitName : Option String) (ref : CoreReference) :
    Outcome → Prop where
  | resolved {a : CoreAbility} {ms : List Mechanic} (ha : core.get? ref.name = some a)
      (hms : core.resolve ref.name (ref.parameter.map .text) = .ok (some ms)) :
      CoreOutcome core unitName ref
        (.brought (origins ⟨.core, coreSourceName a ref.parameter, unitName, none⟩ ms))
  | unknown (h : core.resolve ref.name (ref.parameter.map .text) = .ok none) :
      CoreOutcome core unitName ref (.reported ("core:" ++ ref.name))
  | rejected {ps : List Problem}
      (h : core.resolve ref.name (ref.parameter.map .text) = .error (.invalid ps)) :
      CoreOutcome core unitName ref (.reported ("core:" ++ ref.name))

/-- What becomes of a faction id. -/
inductive FactionOutcome (faction : FactionRegistry) (id : String) : Outcome → Prop where
  | found {a : FactionAbility} (ha : faction.get? id = some a) :
      FactionOutcome faction id (.brought (origins (.named .faction a.name) a.mechanics))
  | unknown (h : faction.get? id = none) : FactionOutcome faction id (.reported ("faction:" ++ id))

/-- What an army brings to either side, given the outcomes of its references. -/
def Army.shared (army : Army) (cores ids : List Outcome) : List Origin :=
  (army.unitAbilities.flatMap fun a => origins ⟨.unit, a.name, army.unitName, .none⟩ a.mechanics)
  ++ (army.leaderAbilities.flatMap fun a =>
      origins ⟨.leader, a.name, army.unitName, .none⟩ a.mechanics)
  ++ cores.flatMap Outcome.origins
  ++ (army.factionAbilities.flatMap fun a => origins (.named .faction a.name) a.mechanics)
  ++ ids.flatMap Outcome.origins

/-- What the stratagems of an army bring to a side. -/
def Army.played (army : Army) (side : Option Side) : List Origin :=
  (army.stratagems.filter fun s => some s.appliesTo == side).flatMap fun s =>
    origins (.named .stratagem s.name) s.mechanics

/-! ## Core references -/

/-- What is collected of an outcome. -/
def Outcome.collected : Outcome → Collected
  | .brought os => ⟨os.map Origin.shown, []⟩
  | .reported text => ⟨[], [text]⟩

theorem resolve_of_unknown {core : CoreRegistry} {name : String} (h : core.get? name = none)
    (parameter : Option Value) : core.resolve name parameter = .ok none := by
  rw [CoreRegistry.resolve, h]

theorem resolve_of_known {core : CoreRegistry} {name : String} {a : CoreAbility}
    (h : core.get? name = some a) (parameter : Option Value) :
    core.resolve name parameter = (CoreRegistry.mechanicsOf a parameter).map some := by
  rw [CoreRegistry.resolve, h]

/-- What is collected of a core reference is what its outcome says. -/
theorem exists_coreOutcome {core : CoreRegistry} {unitName : Option String} {ref : CoreReference}
    {c : Collected} (h : fromCoreReference core unitName ref = .ok c) :
    ∃ o, CoreOutcome core unitName ref o ∧ o.collected = c := by
  rw [fromCoreReference] at h
  cases hget : core.get? ref.name with
  | none =>
    rw [hget] at h
    exact ⟨_, .unknown (resolve_of_unknown hget _), Except.ok.inj h⟩
  | some a =>
    have hresolve := resolve_of_known hget (ref.parameter.map .text)
    rw [hget] at h
    dsimp only at h
    cases hmechanics : CoreRegistry.mechanicsOf a (ref.parameter.map .text) with
    | ok ms =>
      rw [hmechanics] at h hresolve
      dsimp only at h
      rw [tag_eq] at h
      exact ⟨_, .resolved hget hresolve, Except.ok.inj h⟩
    | error e =>
      rw [hmechanics] at h hresolve
      cases e with
      | invalid ps => exact ⟨_, .rejected hresolve, Except.ok.inj h⟩
      -- the one error that is not caught
      | template e => cases h

/-- What is collected of all core references is what their outcomes say. -/
theorem exists_coreOutcomes {core : CoreRegistry} {unitName : Option String}
    {refs : List CoreReference} {cs : List Collected}
    (h : List.Forall₂ (fun ref c => fromCoreReference core unitName ref = .ok c) refs cs) :
    ∃ os, List.Forall₂ (CoreOutcome core unitName) refs os ∧ os.map Outcome.collected = cs := by
  induction h with
  | nil => exact ⟨[], .nil, rfl⟩
  | cons hc _ ih =>
    obtain ⟨o, ho, rfl⟩ := exists_coreOutcome hc
    obtain ⟨os, hos, rfl⟩ := ih
    exact ⟨o :: os, .cons ho hos, rfl⟩

theorem flatMap_mechanics_collected (os : List Outcome) :
    (os.map Outcome.collected).flatMap Collected.mechanics
      = (os.flatMap Outcome.origins).map Origin.shown := by
  rw [List.flatMap_map, List.map_flatMap]
  congr 1
  funext o
  cases o <;> rfl

theorem flatMap_missing_collected (os : List Outcome) :
    (os.map Outcome.collected).flatMap Collected.missing = os.filterMap Outcome.report? := by
  induction os with
  | nil => rfl
  | cons o os ih =>
    rw [List.map_cons, List.flatMap_cons, List.filterMap_cons, ih]
    cases o <;> rfl

/-! ## Faction ids -/

/-- The outcome of a faction id. -/
def factionOutcome (faction : FactionRegistry) (id : String) : Outcome :=
  match faction.get? id with
  | some a => .brought (origins (.named .faction a.name) a.mechanics)
  | none => .reported ("faction:" ++ id)

theorem factionOutcome_spec (faction : FactionRegistry) (id : String) :
    FactionOutcome faction id (factionOutcome faction id) := by
  rw [factionOutcome]
  cases h : faction.get? id with
  | some a => exact .found h
  | none => exact .unknown h

theorem flatMap_found (faction : FactionRegistry) (ids : List String) :
    (ids.filterMap faction.get?).flatMap (fun a => origins (.named .faction a.name) a.mechanics)
      = (ids.map (factionOutcome faction)).flatMap Outcome.origins := by
  induction ids with
  | nil => rfl
  | cons id ids ih =>
    rw [List.filterMap_cons, List.map_cons, List.flatMap_cons, ← ih, factionOutcome]
    cases faction.get? id <;> rfl

theorem map_unknown (faction : FactionRegistry) (ids : List String) :
    (ids.filter fun id => !faction.contains id).map (fun id => "faction:" ++ id)
      = (ids.map (factionOutcome faction)).filterMap Outcome.report? := by
  induction ids with
  | nil => rfl
  | cons id ids ih =>
    rw [List.filter_cons, List.map_cons, List.filterMap_cons, ← ih, factionOutcome,
      FactionRegistry.contains]
    cases faction.get? id <;> rfl

/-! ## The account -/

theorem fromAbilities_eq (type : SourceType) (unitName : Option String) (as : List Ability) :
    fromAbilities type unitName as
      = (as.flatMap fun a => origins ⟨type, a.name, unitName, none⟩ a.mechanics).map Origin.shown :=
  flatMap_tag _ _ as

theorem fromFactionAbilities_eq (as : List FactionAbility) :
    fromFactionAbilities as
      = (as.flatMap fun a => origins (.named .faction a.name) a.mechanics).map Origin.shown :=
  flatMap_tag _ _ as

theorem fromStratagems_eq (side : Option Side) (army : Army) :
    fromStratagems side army.stratagems = (army.played side).map Origin.shown :=
  flatMap_tag _ _ _

/-- The parts of a collection, given what is collected of the core references. -/
theorem collect_of_cores {core : CoreRegistry} {army : Army} {cs : List Collected}
    (hcs : army.coreReferences.mapM (fromCoreReference core army.unitName) = .ok cs)
    (faction : FactionRegistry) (side : Option Side) :
    collect core faction army side = .ok
      ⟨fromAbilities .unit army.unitName army.unitAbilities
          ++ fromAbilities .leader army.unitName army.leaderAbilities
          ++ cs.flatMap Collected.mechanics
          ++ fromFactionAbilities (army.factionAbilities ++ army.factionIds.filterMap faction.get?)
          ++ fromStratagems side army.stratagems,
        cs.flatMap Collected.missing
          ++ (army.factionIds.filter fun id => !faction.contains id).map
              fun id => "faction:" ++ id⟩ := by
  rw [collect, hcs]
  rfl

/-- What is collected for any side, by the outcomes of the references. -/
theorem exists_outcomes_of_collect {core : CoreRegistry} {faction : FactionRegistry} {army : Army}
    {side : Option Side} {c : Collected} (h : collect core faction army side = .ok c) :
    ∃ cores ids, List.Forall₂ (CoreOutcome core army.unitName) army.coreReferences cores ∧
      List.Forall₂ (FactionOutcome faction) army.factionIds ids ∧
      ∀ side', collect core faction army side' = .ok
        ⟨(army.shared cores ids).map Origin.shown ++ (army.played side').map Origin.shown,
          cores.filterMap Outcome.report? ++ ids.filterMap Outcome.report?⟩ := by
  obtain ⟨cs, hcs, -⟩ := bind_eq_ok.mp h
  obtain ⟨cores, hcores, rfl⟩ := exists_coreOutcomes (mapM_eq_ok.mp hcs)
  refine ⟨cores, army.factionIds.map (factionOutcome faction), hcores, ?_, fun side' => ?_⟩
  · rw [List.forall₂_map_right_iff]
    exact List.forall₂_same.mpr fun id _ => factionOutcome_spec faction id
  · rw [collect_of_cores hcs, fromAbilities_eq, fromAbilities_eq, fromFactionAbilities_eq,
      fromStratagems_eq, flatMap_mechanics_collected, flatMap_missing_collected, map_unknown,
      List.flatMap_append, flatMap_found, Army.shared]
    simp only [List.map_append, List.append_assoc]

/-- **Collection loses and duplicates nothing.**  Each reference has one outcome: it brings all its
    mechanics and is not reported, or it brings none and is reported once.  The mechanics collected
    are the origins of the unit's abilities, the leader's, the core references, the faction
    abilities given, the faction ids and the stratagems in play for the side, in this order and
    each tagged; the reports are those of the core references and then those of the faction ids, in
    their order.  For another side everything but the stratagems is the same. -/
theorem collect_accounts {core : CoreRegistry} {faction : FactionRegistry} {army : Army}
    {side : Option Side} {c : Collected} (h : collect core faction army side = .ok c) :
    ∃ cores ids shared,
      List.Forall₂ (CoreOutcome core army.unitName) army.coreReferences cores ∧
      List.Forall₂ (FactionOutcome faction) army.factionIds ids ∧
      c.missing = cores.filterMap Outcome.report? ++ ids.filterMap Outcome.report? ∧
      List.Forall₂ Tagged (army.shared cores ids) shared ∧
      (∃ played, List.Forall₂ Tagged (army.played side) played ∧
        c.mechanics = shared ++ played) ∧
      ∀ side', ∃ played', List.Forall₂ Tagged (army.played side') played' ∧
        collect core faction army side' = .ok ⟨shared ++ played', c.missing⟩ := by
  obtain ⟨cores, ids, hcores, hids, hall⟩ := exists_outcomes_of_collect h
  obtain rfl := Except.ok.inj (h.symm.trans (hall side))
  exact ⟨cores, ids, _, hcores, hids, rfl, tagged_map_shown _,
    ⟨_, tagged_map_shown _, rfl⟩, fun side' => ⟨_, tagged_map_shown _, hall side'⟩⟩

/-- A core document with one ability, given by its templates. -/
def coreDocument (name : String) (templates : List Value) : Value :=
  .ofFields [("abilities", .ofFields [(name, .ofFields [("mechanics", .list templates)])])]

/-- A critical threshold to hit, as a template. -/
def sharpTemplate : Value := .ofFields [
  ("kind", .text "critical-threshold"), ("attribute", .text "hit"), ("value", .text placeholder)]

/-- A squad with an ability of its own, a core ability twice, once with a parameter that does not
    fit, references to a core ability and a faction ability that are not known, and a stratagem for
    the attacker. -/
def squad : Army := { Army.none with
  unitAbilities := [⟨none, "Steady", none, [.effect .plain (.modifier .hit 1)]⟩]
  unitName := some "Squad"
  coreReferences := [⟨"sharp", some "5+"⟩, ⟨"Sharp", some "D3"⟩, ⟨"Blunt", none⟩]
  factionIds := ["oath"]
  stratagems := [⟨"volley", "Volley", [.effect .plain (.reroll .hit .ones)], .attacker⟩] }

/-- The squad has three references reported for either side.  The attacker has one mechanic more
    than the defender, the last one. -/
theorem collect_squad :
    ∃ core c, CoreRegistry.ofDocument (coreDocument "SHARP" [sharpTemplate]) = .ok core ∧
      collect core .empty squad (some .attacker) = .ok c ∧ c.mechanics.length = 3 ∧
      c.missing = ["core:Sharp", "core:Blunt", "faction:oath"] ∧
      ∃ d m, collect core .empty squad (some .defender) = .ok d ∧ d.missing = c.missing ∧
        c.mechanics = d.mechanics ++ [m] := by
  obtain ⟨core, c, hcore, hc, hlength, hmissing⟩ : ∃ core c,
      CoreRegistry.ofDocument (coreDocument "SHARP" [sharpTemplate]) = .ok core ∧
      collect core .empty squad (some .attacker) = .ok c ∧ c.mechanics.length = 3 ∧
      c.missing = ["core:Sharp", "core:Blunt", "faction:oath"] := ⟨_, _, rfl, rfl, rfl, rfl⟩
  obtain ⟨_, _, shared, _, _, _, _, ⟨played, hplayed, hmechanics⟩, hsides⟩ := collect_accounts hc
  obtain ⟨played', hplayed', hdefender⟩ := hsides (some .defender)
  obtain ⟨m, rest, -, hrest, rfl⟩ := List.forall₂_cons_left_iff.mp hplayed
  obtain rfl := List.forall₂_nil_left_iff.mp hrest
  -- no stratagem is in play for the defender
  obtain rfl : played' = [] := List.forall₂_nil_left_iff.mp hplayed'
  rw [List.append_nil] at hdefender
  exact ⟨core, c, hcore, hc, hlength, hmissing, _, m, hdefender, rfl, hmechanics⟩

/-! ## References that break a collection -/

/-- The templates of an ability, with the parameter put in if there is one. -/
def CoreAbility.filled (a : CoreAbility) (parameter : Option String) :
    Except TemplateError (List Value) :=
  match parameter with
  | none => .ok a.templates
  | some p => do
    let x ← (substituteFor (.text p)).mapError .longParameter
    substituteAll x a.templates

/-- The mechanics of an ability in two steps: its templates are filled in, and then read. -/
theorem mechanicsOf_eq (a : CoreAbility) (parameter : Option String) :
    CoreRegistry.mechanicsOf a (parameter.map .text) = (do
      let ts ← (a.filled parameter).mapError .template
      (readMechanics (.list ts)).toExcept.mapError .invalid) := by
  cases parameter with
  | none => rfl
  | some p =>
    rw [CoreAbility.filled, Option.map_some, CoreRegistry.mechanicsOf]
    cases substituteFor (.text p) with
    | error e => rfl
    | ok x => cases substituteAll x a.templates <;> rfl

/-- Whether a parameter can be put into the templates of an ability. -/
def CoreAbility.Takes (a : CoreAbility) (p : String) : Prop :=
  ¬ LongParameter p ∧ ∀ t ∈ a.templates, Fillable t

theorem exists_filled_iff {a : CoreAbility} {parameter : Option String} :
    (∃ ts, a.filled parameter = .ok ts) ↔ ∀ p, parameter = some p → a.Takes p := by
  cases parameter with
  | none => exact iff_of_true ⟨_, rfl⟩ nofun
  | some p =>
    rw [CoreAbility.filled]
    simp only [Option.some.injEq, forall_eq']
    constructor
    · rintro ⟨ts, hts⟩
      obtain ⟨x, hx, hall⟩ := bind_eq_ok.mp hts
      refine ⟨(exists_substituteFor_iff p).mp ⟨x, mapError_eq_ok.mp hx⟩, ?_⟩
      exact (exists_substituteAll_iff x a.templates).mp ⟨ts, hall⟩
    · rintro ⟨hshort, hfill⟩
      obtain ⟨x, hx⟩ := (exists_substituteFor_iff p).mpr hshort
      obtain ⟨ts, hts⟩ := (exists_substituteAll_iff x a.templates).mpr hfill
      exact ⟨ts, bind_eq_ok.mpr ⟨x, mapError_eq_ok.mpr hx, hts⟩⟩

/-- Templates that are filled in may be refused, but not for the parameter. -/
theorem mechanicsOf_ne_template {a : CoreAbility} {parameter : Option String} {ts : List Value}
    (h : a.filled parameter = .ok ts) (e : TemplateError) :
    CoreRegistry.mechanicsOf a (parameter.map .text) ≠ .error (.template e) := by
  rw [mechanicsOf_eq, h]
  show (readMechanics (.list ts)).toExcept.mapError CoreRegistry.ResolveError.invalid ≠ _
  cases readMechanics (.list ts) <;> nofun

/-- A core reference is collected, or reported, if its parameter can be put in. -/
theorem exists_fromCoreReference_iff {core : CoreRegistry} {unitName : Option String}
    {ref : CoreReference} :
    (∃ c, fromCoreReference core unitName ref = .ok c) ↔
      ∀ a, core.get? ref.name = some a → ∀ p, ref.parameter = some p → a.Takes p := by
  rw [fromCoreReference]
  cases hget : core.get? ref.name with
  | none => exact iff_of_true ⟨_, rfl⟩ nofun
  | some a =>
    simp only [Option.some.injEq, forall_eq']
    rw [← exists_filled_iff]
    cases hfilled : a.filled ref.parameter with
    | error e =>
      rw [mechanicsOf_eq, hfilled]
      exact iff_of_false nofun nofun
    | ok ts =>
      refine iff_of_true ?_ ⟨ts, rfl⟩
      cases hmechanics : CoreRegistry.mechanicsOf a (ref.parameter.map .text) with
      | ok ms => exact ⟨_, rfl⟩
      | error e =>
        cases e with
        | invalid ps => exact ⟨_, rfl⟩
        | template e => exact absurd hmechanics (mechanicsOf_ne_template hfilled e)

/-- **When anything is collected at all.** -/
theorem exists_collect_iff {core : CoreRegistry} {faction : FactionRegistry} {army : Army}
    {side : Option Side} :
    (∃ c, collect core faction army side = .ok c) ↔
      ∀ ref ∈ army.coreReferences, ∀ a, core.get? ref.name = some a →
        ∀ p, ref.parameter = some p → a.Takes p := by
  constructor
  · rintro ⟨c, hc⟩ ref href
    obtain ⟨cs, hcs, -⟩ := bind_eq_ok.mp hc
    obtain ⟨d, -, hd⟩ := exists_ok_of_mem hcs href
    exact exists_fromCoreReference_iff.mp ⟨d, hd⟩
  · intro h
    have hrefs : ∀ ref ∈ army.coreReferences, ∃ c,
        fromCoreReference core army.unitName ref = .ok c :=
      fun ref href => exists_fromCoreReference_iff.mpr (h ref href)
    obtain ⟨cs, hcs⟩ := exists_mapM_ok hrefs
    exact ⟨_, collect_of_cores hcs faction side⟩

/-- Mortal wounds within conditionals, each with the placeholder as a value of its own. -/
def towerTemplate : Nat → Value
  | 0 => .ofFields [("value", .text placeholder), ("kind", .text "mortal-wounds")]
  | n + 1 => .ofFields [("value", .text placeholder), ("kind", .text "conditional"),
      ("mechanics", .list [towerTemplate n])]

theorem nesting_towerTemplate (n : Nat) : (towerTemplate n).nesting = 2 * n + 1 := by
  induction n with
  | zero => rfl
  | succ n ih =>
    have hstep : (towerTemplate (n + 1)).nesting = (towerTemplate n).nesting + 2 := by
      simp [towerTemplate, Value.ofFields, Value.nesting, Value.nestingOfFields,
        Value.nestingOfItems]
    rw [hstep, ih]
    ring

/-- A tower can be filled in unless it is too high to be copied. -/
theorem fillable_towerTemplate_iff (n : Nat) : Fillable (towerTemplate n) ↔ n ≤ 247 := by
  induction n with
  | zero =>
    rw [towerTemplate, Value.ofFields, fillable_object_iff]
    simp [Value.nesting, Value.nestingOfFields, deepestCopy]
  | succ n ih =>
    have hstep : Fillable (towerTemplate (n + 1)) ↔
        (towerTemplate (n + 1)).nesting ≤ deepestCopy ∧ Fillable (towerTemplate n) := by
      rw [towerTemplate, Value.ofFields, fillable_object_iff]
      simp
    rw [hstep, ih, nesting_towerTemplate, deepestCopy]
    omega

/-- **Templates that nest too deep.**  A registry is made of a tower of any height, and a reference to
    it is collected up to 247 conditionals. -/
theorem collect_tower_iff (n : Nat) :
    ∃ core, CoreRegistry.ofDocument (coreDocument "X" [towerTemplate n]) = .ok core ∧
      ((∃ c, collect core .empty { Army.none with coreReferences := [⟨"X", some "1"⟩] }
        (some .attacker) = .ok c) ↔ n ≤ 247) := by
  have hdocument : CoreRegistry.ofDocument (coreDocument "X" [towerTemplate n])
      = .ok (.ofAbilities [⟨"X", .plain, "", [towerTemplate n]⟩]) := by
    -- the placeholder comes first, so the search does not go on
    cases n <;> rfl
  have hget : (CoreRegistry.ofAbilities [⟨"X", .plain, "", [towerTemplate n]⟩]).get? "X"
      = some ⟨"X", .plain, "", [towerTemplate n]⟩ := by
    simp [CoreRegistry.ofAbilities, CoreRegistry.get?, Table.ofPairs, Table.put]
  refine ⟨_, hdocument, exists_collect_iff.trans ?_⟩
  have hshort : ¬ LongParameter "1" := (exists_substituteFor_iff "1").mp ⟨_, rfl⟩
  simp [hget, CoreAbility.Takes, hshort, fillable_towerTemplate_iff]

/-- The report of a reference is among those of all. -/
theorem mem_reports {α : Type} {R : α → Outcome → Prop} {as : List α} {os : List Outcome}
    (h : List.Forall₂ R as os) {a : α} (ha : a ∈ as) {text : String}
    (hreport : ∀ o, R a o → o.report? = some text) : text ∈ os.filterMap Outcome.report? := by
  obtain ⟨o, ho, hrel⟩ := exists_of_mem_left h ha
  exact List.mem_filterMap.mpr ⟨o, ho, hreport o hrel⟩

/-- **References that cannot be resolved are reported, unless they break the collection.**  Whatever
    cannot be turned into mechanics is reported where anything is collected.  And that is so exactly
    if every parameter can be put into the templates of its ability: it is no number too long to be
    read, and the templates do not nest too deep and hold nothing but objects.  Of these, the
    outermost are objects in every registry from a document; those within them need not be. -/
theorem collect_reports (core : CoreRegistry) (faction : FactionRegistry) (army : Army)
    (side : Option Side) :
    ((∃ c, collect core faction army side = .ok c) ↔
      ∀ ref ∈ army.coreReferences, ∀ a, core.get? ref.name = some a →
        ∀ p, ref.parameter = some p → ¬ LongParameter p ∧ ∀ t ∈ a.templates, Fillable t) ∧
    (∀ v, CoreRegistry.ofDocument v = .ok core →
      ∀ name a, core.get? name = some a → ∀ t ∈ a.templates, IsObject t) ∧
    ∀ c, collect core faction army side = .ok c →
      (∀ ref ∈ army.coreReferences,
        (∀ ms, core.resolve ref.name (ref.parameter.map .text) ≠ .ok (some ms)) →
          "core:" ++ ref.name ∈ c.missing) ∧
      ∀ id ∈ army.factionIds, faction.get? id = none → "faction:" ++ id ∈ c.missing := by
  refine ⟨exists_collect_iff, fun v hv name a ha => isObject_of_ofDocument hv ha, fun c hc => ?_⟩
  obtain ⟨cores, ids, hcores, hids, hall⟩ := exists_outcomes_of_collect hc
  obtain rfl := Except.ok.inj (hc.symm.trans (hall side))
  refine ⟨fun ref href hunresolved => List.mem_append_left _ (mem_reports hcores href ?_),
    fun id hid hunknown => List.mem_append_right _ (mem_reports hids hid ?_)⟩
  · rintro o (⟨_, hms⟩ | _ | _)
    · exact absurd hms (hunresolved _)
    · rfl
    · rfl
  · rintro o (ha | _)
    · cases hunknown.symm.trans ha
    · rfl

/-- An ability whose template holds the placeholder where a mechanic should stand. -/
def hollowTemplate : Value := .ofFields [
  ("kind", .text "conditional"), ("mechanics", .list [.text placeholder])]

/-- A registry is made of it, and a reference with a parameter breaks the collection. -/
theorem not_collect_hollow :
    ∃ core, CoreRegistry.ofDocument (coreDocument "X" [hollowTemplate]) = .ok core ∧
      collect core .empty { Army.none with coreReferences := [⟨"X", some "1"⟩] } (some .attacker)
        = .error .notAnObject := ⟨_, rfl, rfl⟩

end Muster.Combat
