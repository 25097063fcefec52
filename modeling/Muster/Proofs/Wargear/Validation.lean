/-
  Validation: what a verdict says about the groups it was given.

  The validator joins the group for any model and the groups that match a model type by name, and
  looks for a permutation of the loadout among their items.  `offered` names what is joined.  Two
  readings of it are enough for every statement about verdicts:

    (1) a loadout is valid exactly if nothing is offered, or a permutation of it is
        (`isValid_iff_offered`);
    (2) what is offered is what the groups that match hold, group by group (`mem_offered`), as long
        as the groups for any model are all the same one.
-/
import Mathlib
import Muster.Proofs.Wargear.Loadout
import Muster.Wargear.Validation

namespace Muster.Wargear

/-! ## Matching by name -/

theorem matchesGroup_any (modelType : String) : matchesGroup modelType anyModel = true := by
  rw [matchesGroup, if_pos (beq_self_eq_true anyModel)]

theorem matchesGroup_unitWide (modelType : String) : matchesGroup modelType unitWide = false := by
  rfl

theorem sameModelType_self (name : List Char) : sameModelType name name = true := by
  simp [sameModelType, sameKey]

/-- A model type matches the group of its own name, unless that is the name of the unit's group. -/
theorem matchesGroup_self {modelType : String} (h : modelType ≠ unitWide) :
    matchesGroup modelType modelType = true := by
  rw [matchesGroup]
  split
  · rfl
  · rw [if_neg (by simpa using h)]
    exact sameModelType_self modelType.toList

/-! ## What groups offer -/

/-- The loadouts that groups offer to a model type: those of the group for any model, and those of
    the groups that match the type by name. -/
def offered (modelType : String) (gs : List Group) : List Loadout :=
  ((anyGroup? gs).map Group.items).getD [] ++ (specificGroups modelType gs).flatMap Group.items

/-- All groups for any model are one and the same. -/
def OneAnyGroup (gs : List Group) : Prop :=
  ∀ g ∈ gs, ∀ h ∈ gs, g.modelType = anyModel → h.modelType = anyModel → g = h

theorem modelType_anyGroup {gs : List Group} {g : Group} (h : anyGroup? gs = some g) :
    g ∈ gs ∧ g.modelType = anyModel := by
  have hname := List.find?_some h
  exact ⟨List.mem_of_find?_eq_some h, beq_iff_eq.mp hname⟩

theorem mem_specificGroups {modelType : String} {gs : List Group} {g : Group} :
    g ∈ specificGroups modelType gs ↔
      g ∈ gs ∧ g.modelType ≠ anyModel ∧ matchesGroup modelType g.modelType = true := by
  rw [specificGroups, List.mem_filter, Bool.and_eq_true, Bool.and_eq_true, bne_iff_ne, bne_iff_ne]
  constructor
  · rintro ⟨hg, ⟨hany, _⟩, hmatch⟩
    exact ⟨hg, hany, hmatch⟩
  · rintro ⟨hg, hany, hmatch⟩
    refine ⟨hg, ⟨hany, ?_⟩, hmatch⟩
    intro hwide
    rw [hwide, matchesGroup_unitWide] at hmatch
    exact Bool.false_ne_true hmatch

/-- **What is offered, group by group.** -/
theorem mem_offered {modelType : String} {gs : List Group} (hone : OneAnyGroup gs) {l : Loadout} :
    l ∈ offered modelType gs ↔
      ∃ g ∈ gs, matchesGroup modelType g.modelType = true ∧ l ∈ g.items := by
  rw [offered, List.mem_append, List.mem_flatMap]
  constructor
  · rintro (hl | ⟨g, hg, hl⟩)
    · cases hfind : anyGroup? gs with
      | none => rw [hfind] at hl; exact absurd hl List.not_mem_nil
      | some g =>
        rw [hfind] at hl
        obtain ⟨hg, hname⟩ := modelType_anyGroup hfind
        refine ⟨g, hg, ?_, hl⟩
        rw [hname]
        exact matchesGroup_any modelType
    · obtain ⟨hg, _, hmatch⟩ := mem_specificGroups.mp hg
      exact ⟨g, hg, hmatch, hl⟩
  · rintro ⟨g, hg, hmatch, hl⟩
    by_cases hname : g.modelType = anyModel
    · refine Or.inl ?_
      cases hfind : anyGroup? gs with
      | none =>
        have hno := List.find?_eq_none.mp hfind g hg
        exact absurd (beq_iff_eq.mpr hname) hno
      | some h =>
        obtain ⟨hh, hhname⟩ := modelType_anyGroup hfind
        have hgh : g = h := hone g hg h hh hname hhname
        rw [Option.map_some, Option.getD_some, ← hgh]
        exact hl
    · exact Or.inr ⟨g, mem_specificGroups.mpr ⟨hg, hname, hmatch⟩, hl⟩

/-- A group for the unit as a whole offers nothing to a model. -/
theorem offered_append_unitWide (modelType : String) (gs : List Group) (items : List Loadout)
    (note : Option GroupTargeting) :
    offered modelType (gs ++ [⟨unitWide, items, note⟩]) = offered modelType gs := by
  have hany : anyGroup? (gs ++ [⟨unitWide, items, note⟩]) = anyGroup? gs := by
    rw [anyGroup?, List.find?_append]
    simp [anyGroup?, anyModel, unitWide]
  have hspecific : specificGroups modelType (gs ++ [⟨unitWide, items, note⟩])
      = specificGroups modelType gs := by
    simp [specificGroups, List.filter_append]
  rw [offered, hany, hspecific, offered]

/-! ## Verdicts -/

/-- The candidates of a model type are what is offered to it. -/
theorem candidateGroup_eq_none_iff {modelType : String} {gs : List Group} :
    candidateGroup modelType gs = none ↔ offered modelType gs = [] := by
  rw [candidateGroup, offered]
  split
  · rename_i hempty
    exact ⟨fun _ => List.isEmpty_iff.mp hempty, fun _ => rfl⟩
  · rename_i hsome
    constructor
    · intro h
      cases h
    · intro h
      exact absurd (List.isEmpty_iff.mpr h) hsome

theorem items_candidateGroup {modelType : String} {gs : List Group} {g : Group}
    (h : candidateGroup modelType gs = some g) : g.items = offered modelType gs := by
  rw [candidateGroup] at h
  split at h
  · cases h
  · cases h
    rfl

/-- An exact candidate is found exactly if one is a permutation of the loadout. -/
theorem findExact_isSome_iff {loadout : List String} {candidates : List Loadout} :
    (findExact loadout candidates).isSome = true ↔ ∃ c ∈ candidates, loadout.Perm c := by
  rw [findExact, List.find?_isSome]
  constructor
  · rintro ⟨c, hc, heq⟩
    exact ⟨c, hc, (Loadout.ofItems_eq_iff.mp (beq_iff_eq.mp heq)).symm⟩
  · rintro ⟨c, hc, hperm⟩
    exact ⟨c, hc, beq_iff_eq.mpr (Loadout.ofItems_eq_iff.mpr hperm.symm)⟩

theorem isValid_verdictIn (loadout : List String) (g : Group) :
    (verdictIn loadout g).isValid = (findExact loadout g.items).isSome := by
  rw [verdictIn]
  cases findExact loadout g.items with
  | some c => rfl
  | none => cases findClosest loadout g.items <;> rfl

/-- **When a loadout is valid**: nothing is offered to its model type, or a permutation of it is. -/
theorem isValid_iff_offered {modelType : String} {loadout : List String} {gs : List Group} :
    (validateLoadout modelType loadout gs).isValid = true ↔
      offered modelType gs = [] ∨ ∃ c ∈ offered modelType gs, loadout.Perm c := by
  rw [validateLoadout]
  cases hcand : candidateGroup modelType gs with
  | none => exact ⟨fun _ => Or.inl (candidateGroup_eq_none_iff.mp hcand), fun _ => rfl⟩
  | some g =>
    have hne : offered modelType gs ≠ [] := by
      intro hnil
      rw [candidateGroup_eq_none_iff.mpr hnil] at hcand
      cases hcand
    dsimp only
    rw [isValid_verdictIn, findExact_isSome_iff, items_candidateGroup hcand]
    exact ⟨Or.inr, fun h => h.resolve_left hne⟩

end Muster.Wargear
