/-
  Legality: what the groups of a run may hold.

  1. **Program.**  The loadouts of a model type are filtered by the constraints of all options, then
     regrouped: some go into a group for any model, and a group that is left alone without a note is
     renamed to be one.  The loadouts of the unit as a whole are put behind as they were reached.

  2. **Specification.**  `Obeys` says what the constraints ask of a loadout, and `legalLoadouts`
     which loadouts a model type has.

  3. **Constraints.**  Regrouping moves loadouts and makes none (`exists_mem_of_mem_group`), so every
     group of models obeys.  The group of the unit was never filtered; whether a run obeys hangs on
     that group alone (`generated_obeys_iff`).

  4. **The group for any model.**  The crux is that a loadout of a model type lies in a piece of the
     grouping that holds nothing but loadouts of this type (`exists_piece`).  A group that is left
     alone is that piece, for each type that has a loadout at all.  A type that the constraints leave
     without any is the one way in which the group for any model says too much.
-/
import Mathlib
import Muster.Proofs.Wargear.Grouping

namespace Muster.Wargear

/-! ## Constraints -/

/-- A loadout obeys what the options forbid. -/
structure Obeys (os : List ParsedOption) (r : Resolver) (l : Loadout) : Prop where
  apart : ∀ o ∈ os, ∀ p ∈ o.constraints.mutuallyExclusive, ¬ (r.resolve p.1 ∈ l ∧ r.resolve p.2 ∈ l)
  within : ∀ o ∈ os, ∀ m ∈ o.constraints.maxWeaponCount,
    (l.count (r.resolve m.weapon) : Int) ≤ m.max

theorem allowed_iff_obeys {os : List ParsedOption} {r : Resolver} {l : Loadout} :
    allowed os r l = true ↔ Obeys os r l := by
  have hapart : ∀ p : String × String,
      (!(l.contains (r.resolve p.1) && l.contains (r.resolve p.2))) = true
        ↔ ¬ (r.resolve p.1 ∈ l ∧ r.resolve p.2 ∈ l) := by
    intro p
    rw [Bool.not_eq_true', ← Bool.not_eq_true, Bool.and_eq_true, List.contains_iff_mem,
      List.contains_iff_mem]
  simp only [allowed, Bool.and_eq_true, List.all_eq_true, hapart, decide_eq_true_eq]
  exact ⟨fun h => ⟨h.1, h.2⟩, fun h => ⟨h.apart, h.within⟩⟩

/-- Whether a loadout obeys can be computed. -/
instance (os : List ParsedOption) (r : Resolver) (l : Loadout) : Decidable (Obeys os r l) :=
  decidable_of_iff _ allowed_iff_obeys

/-- A legal loadout obeys: what does not was filtered out. -/
theorem obeys_of_mem_legalLoadouts {d : Datasheet} {os : List ParsedOption} {s : Settings}
    {modelType : String} {l : Loadout} (h : l ∈ legalLoadouts d os s modelType) :
    Obeys os d.resolver l := by
  rw [legalLoadouts] at h
  cases hbase : baseOf d modelType with
  | none =>
    rw [hbase] at h
    exact absurd h List.not_mem_nil
  | some base =>
    rw [hbase] at h
    exact allowed_iff_obeys.mp (List.mem_filter.mp h).2

/-! ## What a grouping is made of -/

/-- A renamed group holds what it held before. -/
theorem mem_renameLone {gs : List Group} {g : Group} (h : g ∈ renameLone gs) :
    g ∈ gs ∨ ∃ k, gs = [k] ∧ g.items = k.items := by
  rcases gs with _ | ⟨k, _ | ⟨k', gs⟩⟩
  · exact Or.inl h
  · rw [renameLone] at h
    split at h
    · refine Or.inr ⟨k, rfl, ?_⟩
      rw [List.mem_singleton.mp h]
    · exact Or.inl h
  · exact Or.inl h

theorem exists_mem_of_mem_plainGroups {ts : List TypeLoadouts} {typeCount : Nat} {g : Group}
    (hg : g ∈ plainGroups ts typeCount) {l : Loadout} (hl : l ∈ g.items) :
    ∃ t ∈ ts, l ∈ t.loadouts := by
  rcases mem_plainGroups.mp hg with ⟨_, rfl⟩ | hg
  · exact (mem_common.mp hl).2
  · obtain ⟨t, ht, _, rfl⟩ := mem_typeGroups.mp hg
    exact ⟨t, ht, (mem_ownLoadouts.mp hl).1⟩

/-- **Regrouping makes no loadout**: each comes from some model type. -/
theorem exists_mem_of_mem_group {ts : List TypeLoadouts} {typeCount : Nat} {g : Group}
    (hg : g ∈ group ts typeCount) {l : Loadout} (hl : l ∈ g.items) :
    ∃ t ∈ ts, l ∈ t.loadouts := by
  rw [group_eq] at hg
  rcases mem_renameLone hg with hg | ⟨k, hk, hitems⟩
  · exact exists_mem_of_mem_plainGroups hg hl
  · have hmem : k ∈ plainGroups ts typeCount := by
      rw [hk]
      exact List.mem_singleton_self k
    rw [hitems] at hl
    exact exists_mem_of_mem_plainGroups hmem hl

/-- Without options that change a loadout there are none for the unit as a whole. -/
theorem unitGroups_eq_nil {d : Datasheet} {os : List ParsedOption} {s : Settings}
    (hoptions : hasOptions os = false) : unitGroups d os s = [] := by
  have hnone : unitOptions os = [] := by
    refine List.filter_eq_nil_iff.mpr fun o ho => ?_
    have hactionable := List.any_eq_false.mp hoptions o ho
    simp [hactionable]
  rw [unitGroups, hnone]
  rfl

theorem unitGroups_eq_singleton {d : Datasheet} {os : List ParsedOption} {s : Settings}
    (hunit : unitOptions os ≠ []) : unitGroups d os s
      = [⟨unitWide, (expand [] (unitOptions os) d.resolver s).loadouts, none⟩] := by
  rw [unitGroups, if_neg fun hempty => hunit (List.isEmpty_iff.mp hempty)]

/-- The groups of a run, with or without options. -/
theorem exists_groups_generateFrom (d : Datasheet) (os : List ParsedOption) (s : Settings) :
    ∃ gs, (generateFrom d os s).groups = gs ++ unitGroups d os s ∧
      ∀ g ∈ gs, g ∈ group (typeLoadouts d os s) (modelTypes d.roster).length := by
  cases hoptions : hasOptions os with
  | true => exact ⟨_, groups_generateFrom_eq hoptions, fun g hg => hg⟩
  | false =>
    refine ⟨[], ?_, fun g hg => absurd hg List.not_mem_nil⟩
    rw [unitGroups_eq_nil hoptions, generateFrom, hoptions]
    rfl

/-- **Where a run may break a constraint.**  Its groups are groups of models, all of which obey, and
    perhaps the group of the unit; so all of it obeys exactly if what the options for the unit reach
    does. -/
theorem generated_obeys_iff (d : Datasheet) (os : List ParsedOption) (s : Settings) :
    (∃ gs, (generateFrom d os s).groups = gs ++ unitGroups d os s ∧
      ∀ g ∈ gs, ∀ l ∈ g.items, Obeys os d.resolver l) ∧
    ((∀ g ∈ (generateFrom d os s).groups, ∀ l ∈ g.items, Obeys os d.resolver l) ↔
      ∀ g ∈ unitGroups d os s, ∀ l ∈ g.items, Obeys os d.resolver l) := by
  obtain ⟨gs, hgroups, hgs⟩ := exists_groups_generateFrom d os s
  have hobeys : ∀ g ∈ gs, ∀ l ∈ g.items, Obeys os d.resolver l := by
    intro g hg l hl
    obtain ⟨t, ht, hlt⟩ := exists_mem_of_mem_group (hgs g hg) hl
    rw [(mem_typeLoadouts.mp ht).2.2] at hlt
    exact obeys_of_mem_legalLoadouts hlt
  refine ⟨⟨gs, hgroups, hobeys⟩, ?_⟩
  rw [hgroups]
  constructor
  · intro h g hg
    exact h g (List.mem_append_right gs hg)
  · intro h g hg
    rcases List.mem_append.mp hg with hg | hg
    · exact hobeys g hg
    · exact h g hg

/-- A unit that may carry a banner and a horn, but not both. -/
def bearers : Datasheet where
  id := "u"
  name := "Bearers"
  defaultLoadout := "Every model is equipped with: bolter."
  roster := [⟨"4 Marines", 4, 4⟩]
  weapons := []
  abilities := []
  options := [
    ⟨"u", 1, "", "This unit can be equipped with 1 banner."⟩,
    ⟨"u", 2, "", "This unit can be equipped with 1 horn. " ++
      "This unit cannot be equipped with both a banner and a horn."⟩]

/-- The options of the bearers, as they are read. -/
def bearersOptions : List ParsedOption := [
  { line := 1
    rawText := "This unit can be equipped with 1 banner."
    wargearParsed := true
    targeting := Targeting.plain "this-unit" "this-unit"
    action := ⟨"equip-with-single", .add, [], [⟨[⟨"banner", 1⟩], false⟩], false, none⟩
    constraints := .none },
  { line := 2
    rawText := "This unit can be equipped with 1 horn. " ++
      "This unit cannot be equipped with both a banner and a horn."
    wargearParsed := true
    targeting := Targeting.plain "this-unit" "this-unit"
    action := ⟨"equip-with-single", .add, [], [⟨[⟨"horn", 1⟩], false⟩], false, none⟩
    constraints := { Constraints.none with mutuallyExclusive := [("banner", "horn")] } }]

theorem parseOptions_bearers : parseOptions bearers.options = .ok bearersOptions := by
  decide +kernel

/-- The bearers are offered banner and horn together, in the group of the unit. -/
theorem banner_with_horn :
    parseOptions bearers.options = .ok bearersOptions ∧
      ∃ g ∈ (generateFrom bearers bearersOptions .standard).groups, g.modelType = unitWide ∧
        ["u:banner", "u:horn"] ∈ g.items ∧
        ¬ Obeys bearersOptions bearers.resolver ["u:banner", "u:horn"] := by
  have hgroup : ⟨unitWide,
      (expand [] (unitOptions bearersOptions) bearers.resolver .standard).loadouts, none⟩
      ∈ (generateFrom bearers bearersOptions .standard).groups := by
    rw [groups_generateFrom_eq (by decide +kernel), unitGroups_eq_singleton (by decide +kernel)]
    exact List.mem_append_right _ (List.mem_singleton_self _)
  have hboth : ["u:banner", "u:horn"]
      ∈ (expand [] (unitOptions bearersOptions) bearers.resolver .standard).loadouts := by
    simp only [expand, step_eq]
    decide +kernel
  exact ⟨parseOptions_bearers, _, hgroup, rfl, hboth, by decide +kernel⟩

/-! ## The group for any model -/

/-- What a grouping puts into the group for any model belongs to every type that has loadouts, if no
    type is itself the one that stands for any model. -/
theorem mem_loadouts_of_mem_any {ts : List TypeLoadouts} {typeCount : Nat}
    (hnodup : ∀ t ∈ ts, t.loadouts.Nodup) (hshort : ts.length ≤ typeCount)
    (hnamed : ∀ t ∈ ts, t.modelType ≠ anyModel) {g : Group} (hg : g ∈ group ts typeCount)
    (hany : g.modelType = anyModel) {l : Loadout} (hl : l ∈ g.items) {t : TypeLoadouts}
    (ht : t ∈ ts) (hsome : t.loadouts ≠ []) : l ∈ t.loadouts := by
  rw [group_eq] at hg
  rcases mem_renameLone hg with hg | ⟨k, hk, hitems⟩
  · rcases mem_plainGroups.mp hg with ⟨_, rfl⟩ | hg
    · exact (mem_of_isCommon hnodup hshort (mem_common.mp hl).1).2 t ht
    · obtain ⟨u, hu, _, rfl⟩ := mem_typeGroups.mp hg
      exact absurd hany (hnamed u hu)
  · -- the lone piece is the one in which the loadouts of `t` lie
    obtain ⟨m, hm⟩ := List.exists_mem_of_ne_nil _ hsome
    obtain ⟨k', hk', _, _, hheld⟩ := exists_piece hnodup hshort ht hm
    rw [hk] at hk'
    rw [hitems, ← List.mem_singleton.mp hk'] at hl
    exact hheld l hl

/-- **The group for any model is legal for every model type that has a legal loadout**, where none
    is itself called so. -/
theorem mem_legalLoadouts_of_mem_any {d : Datasheet} {os : List ParsedOption} {s : Settings}
    (hnamed : anyModel ∉ modelTypes d.roster) {g : Group} (hg : g ∈ (generateFrom d os s).groups)
    (hany : g.modelType = anyModel) {l : Loadout} (hl : l ∈ g.items) {modelType : String}
    (hlisted : modelType ∈ modelTypes d.roster) (hsome : legalLoadouts d os s modelType ≠ []) :
    l ∈ legalLoadouts d os s modelType := by
  obtain ⟨gs, hgroups, hgs⟩ := exists_groups_generateFrom d os s
  rw [hgroups] at hg
  rcases List.mem_append.mp hg with hg | hg
  · have hbase : baseOf d modelType ≠ none := by
      intro hnone
      rw [legalLoadouts, hnone] at hsome
      exact hsome rfl
    have ht : ⟨modelType, legalLoadouts d os s modelType, groupTargeting modelType os⟩
        ∈ typeLoadouts d os s := mem_typeLoadouts.mpr ⟨hlisted, hbase, rfl⟩
    have hother : ∀ t ∈ typeLoadouts d os s, t.modelType ≠ anyModel := by
      intro t ht heq
      have hmem := (mem_typeLoadouts.mp ht).1
      rw [heq] at hmem
      exact hnamed hmem
    exact mem_loadouts_of_mem_any (fun _ => nodup_of_mem_typeLoadouts)
      (length_typeLoadouts_le d os s) hother (hgs g hg) hany hl ht hsome
  · -- the group of the unit has another name
    rw [unitGroups] at hg
    split at hg
    · exact absurd hg List.not_mem_nil
    · rw [List.mem_singleton.mp hg] at hany
      have hne : unitWide ≠ anyModel := by decide
      exact absurd hany hne

/-- Bolter and knife, which the squad's group for any model holds, are legal for its marines. -/
theorem legal_marine :
    anyModel ∉ modelTypes squad.roster ∧
      legalLoadouts squad squadOptions .standard "Marine" ≠ [] ∧
      ["u:bolter", "u:knife"] ∈ legalLoadouts squad squadOptions .standard "Marine" := by
  have hgroups : (generateFrom squad squadOptions .standard).groups
      = [⟨anyModel, [["u:bolter", "u:knife"]], none⟩,
        ⟨"Sergeant", [["u:knife", "u:plasma-pistol"]], none⟩] := by
    rw [groups_generateFrom_eq (by decide +kernel)]
    simp only [group_eq, plainGroups, common, typeGroups, ownLoadouts, isCommon_eq,
      firsts_eq_eraseDups, typeLoadouts, expansions, expand, step_eq]
    decide +kernel
  have hnamed : anyModel ∉ modelTypes squad.roster := by decide +kernel
  have hsome : legalLoadouts squad squadOptions .standard "Marine" ≠ [] := by
    simp only [legalLoadouts, expand, step_eq]
    decide +kernel
  have hany : ⟨anyModel, [["u:bolter", "u:knife"]], none⟩
      ∈ (generateFrom squad squadOptions .standard).groups := by
    rw [hgroups]
    exact List.mem_cons_self
  exact ⟨hnamed, hsome, mem_legalLoadouts_of_mem_any hnamed hany rfl (List.mem_singleton_self _)
    (by decide +kernel) hsome⟩

/-- A band whose marines start with what an option of the sergeant forbids to all. -/
def band : Datasheet where
  id := "u"
  name := "Band"
  defaultLoadout := "The Sergeant is equipped with: bolter. " ++
    "The Marine is equipped with: axe; shield."
  roster := [⟨"1 Sergeant", 1, 1⟩, ⟨"4 Marines", 4, 4⟩]
  weapons := []
  abilities := []
  options := [⟨"u", 1, "", "The Sergeant's bolter can be replaced with 1 plasma pistol. " ++
    "This model cannot be equipped with both an axe and a shield."⟩]

/-- The option of the band, as it is read. -/
def bandOptions : List ParsedOption := [{
  line := 1
  rawText := "The Sergeant's bolter can be replaced with 1 plasma pistol. " ++
    "This model cannot be equipped with both an axe and a shield."
  wargearParsed := true
  targeting := { Targeting.plain "specific-model" "specific-model" with
    modelType := some "Sergeant" }
  action := ⟨"replace-with-single", .replace, [⟨"bolter", 1⟩], [⟨[⟨"plasma pistol", 1⟩], false⟩],
    false, none⟩
  constraints := { Constraints.none with mutuallyExclusive := [("axe", "shield")] } }]

theorem parseOptions_band : parseOptions band.options = .ok bandOptions := by
  decide +kernel

/-- The marines of the band have no legal loadout, and the sergeant's stand for any model. -/
theorem not_legal_marine :
    parseOptions band.options = .ok bandOptions ∧ anyModel ∉ modelTypes band.roster ∧
      (generateFrom band bandOptions .standard).groups
        = [⟨anyModel, [["u:bolter"], ["u:plasma-pistol"]], none⟩] ∧
      "Marine" ∈ modelTypes band.roster ∧
      ["u:plasma-pistol"] ∉ legalLoadouts band bandOptions .standard "Marine" := by
  refine ⟨parseOptions_band, by decide +kernel, ?_, by decide +kernel, ?_⟩
  · rw [groups_generateFrom_eq (by decide +kernel)]
    simp only [group_eq, plainGroups, common, typeGroups, ownLoadouts, isCommon_eq,
      firsts_eq_eraseDups, typeLoadouts, expansions, expand, step_eq]
    decide +kernel
  · simp only [legalLoadouts, expand, step_eq]
    decide +kernel

end Muster.Wargear
