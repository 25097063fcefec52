/-
  Defaults: what a model type starts from.

  1. **Program.**  A model type takes the first stated default that suits it.  One pass asks for a
     name that is the same up to case, blanks and a plural, and for one that stands within the
     other; so an entry that merely OVERLAPS is taken if it comes first.

  2. **Specification.**  `Overlaps` is the second question alone.  The entry OF a model type is the
     first one with the same name.

  3. **The entry that is taken.**  Before its own entry a model type meets only what overlaps, so it
     starts from the first entry before its own that does, and from its own if none does
     (`expansion_of_listed`).  The crux is that names are compared in lower case twice over, which
     is no more than once (`lower_lower`).

  4. **Terminators.**  Where a sergeant of Terminators is stated first, Terminators take his fist.
-/
import Mathlib
import Muster.Proofs.Text.LetterCase
import Muster.Proofs.Text.Words
import Muster.Proofs.Wargear.Grouping

namespace Muster.Wargear

open Text

/-! ## Names that overlap -/

/-- A model type has the name of an entry, up to case, blanks around it and a plural. -/
def DefaultLoadout.IsOf (e : DefaultLoadout) (modelType : String) : Prop :=
  sameModelType e.modelType.toList modelType.toList = true

instance (e : DefaultLoadout) (modelType : String) : Decidable (e.IsOf modelType) :=
  inferInstanceAs (Decidable (_ = _))

/-- One name stands within the other, case apart. -/
def DefaultLoadout.Overlaps (e : DefaultLoadout) (modelType : String) : Prop :=
  lower e.modelType.toList <:+: lower modelType.toList ∨
    lower modelType.toList <:+: lower e.modelType.toList

/-- Lower case changes no comparison of model types. -/
theorem sameModelType_lower (a b : List Char) :
    sameModelType (lower a) (lower b) = sameModelType a b := by
  simp only [sameModelType, nameKey, lower_lower]

/-- An entry suits a model type of its name, or of one that overlaps. -/
theorem suits_eq_true_iff {e : DefaultLoadout} {modelType : String} :
    e.suits modelType = true ↔ e.IsOf modelType ∨ e.Overlaps modelType := by
  simp only [DefaultLoadout.suits, sameModelType_lower, Bool.or_eq_true, occurs_eq_true_iff,
    DefaultLoadout.IsOf, DefaultLoadout.Overlaps, or_assoc]

/-! ## The entry that is taken -/

variable {modelType : String} {xs ys : List DefaultLoadout} {e : DefaultLoadout}

/-- A model type takes an entry that suits it, if none before it does. -/
theorem defaultFor_eq (he : e.suits modelType = true) (hxs : ∀ f ∈ xs, f.suits modelType = false) :
    defaultFor modelType (xs ++ e :: ys) = some e := by
  have hfind : (xs ++ e :: ys).find? (fun f => f.suits modelType) = some e := by
    refine List.find?_eq_some_iff_append.mpr ⟨he, xs, ys, rfl, fun f hf => ?_⟩
    rw [hxs f hf]
    rfl
  rw [defaultFor, hfind]

/-- Some entry is taken wherever one is stated. -/
theorem exists_defaultFor (modelType : String) {ds : List DefaultLoadout} (hds : ds ≠ []) :
    ∃ f, defaultFor modelType ds = some f := by
  rw [defaultFor]
  split
  · exact ⟨_, rfl⟩
  · exact ⟨ds.head hds, List.head?_eq_some_head hds⟩

/-- What neither has the name nor overlaps is passed by. -/
theorem suits_eq_false (hof : ¬ e.IsOf modelType) (hnone : ¬ e.Overlaps modelType) :
    e.suits modelType = false := by
  rw [← Bool.not_eq_true, suits_eq_true_iff]
  exact not_or.mpr ⟨hof, hnone⟩

/-- The entry of a model type is taken if no name before it overlaps. -/
theorem defaultFor_own (hof : e.IsOf modelType) (hfirst : ∀ f ∈ xs, ¬ f.IsOf modelType)
    (hnone : ∀ f ∈ xs, ¬ f.Overlaps modelType) : defaultFor modelType (xs ++ e :: ys) = some e :=
  defaultFor_eq (suits_eq_true_iff.mpr (Or.inl hof)) fun f hf =>
    suits_eq_false (hfirst f hf) (hnone f hf)

/-- An entry before it is taken if it is the first to overlap. -/
theorem defaultFor_overlapping {us vs : List DefaultLoadout} {g : DefaultLoadout}
    (hfirst : ∀ f ∈ xs, ¬ f.IsOf modelType) (hxs : xs = us ++ g :: vs)
    (hg : g.Overlaps modelType) (hus : ∀ f ∈ us, ¬ f.Overlaps modelType) :
    defaultFor modelType (xs ++ e :: ys) = some g := by
  rw [hxs, List.append_assoc, List.cons_append]
  refine defaultFor_eq (suits_eq_true_iff.mpr (Or.inr hg)) fun f hf => ?_
  have hmem : f ∈ xs := hxs ▸ List.mem_append_left (g :: vs) hf
  exact suits_eq_false (hfirst f hmem) (hus f hf)

theorem baseOf_eq {d : Datasheet} {ds : List DefaultLoadout} {f : DefaultLoadout}
    (hstated : parseDefaultLoadout d.defaultLoadout d.roster = ds)
    (hf : defaultFor modelType ds = some f) :
    baseOf d modelType = some (f.items.map d.resolver.resolve) := by
  rw [baseOf, hstated, hf]
  rfl

/-- A model type of the roster is expanded from what it starts with, and from nothing else. -/
theorem mem_expansions_iff {d : Datasheet} {os : List ParsedOption} {s : Settings}
    {base : List String} (hlisted : modelType ∈ modelTypes d.roster)
    (hbase : baseOf d modelType = some base) (x : Expanded) : (modelType, x) ∈ expansions d os s ↔
      x = expand base (applicable os modelType) d.resolver s := by
  rw [expansions, List.mem_filterMap]
  constructor
  · rintro ⟨t, _, ht⟩
    obtain ⟨b, hb, hpair⟩ := Option.map_eq_some_iff.mp ht
    obtain ⟨rfl, rfl⟩ := Prod.mk.inj hpair
    rw [hbase] at hb
    rw [Option.some.inj hb]
  · rintro rfl
    exact ⟨modelType, hlisted, by rw [hbase]; rfl⟩

/-- **What a model type starts from**, if an entry of its name is stated: the items of the first
    entry before that one whose name overlaps, or of that one if none overlaps. -/
theorem expansion_of_listed (d : Datasheet) (os : List ParsedOption) (s : Settings)
    (hlisted : modelType ∈ modelTypes d.roster)
    (hstated : parseDefaultLoadout d.defaultLoadout d.roster = xs ++ e :: ys)
    (hof : e.IsOf modelType) (hfirst : ∀ f ∈ xs, ¬ f.IsOf modelType) :
    ∃ f, (∀ x, (modelType, x) ∈ expansions d os s ↔
        x = expand (f.items.map d.resolver.resolve) (applicable os modelType) d.resolver s) ∧
      ((∀ g ∈ xs, ¬ g.Overlaps modelType) → f = e) ∧
      ∀ us g vs, xs = us ++ g :: vs → g.Overlaps modelType →
        (∀ k ∈ us, ¬ k.Overlaps modelType) → f = g := by
  have hsome : xs ++ e :: ys ≠ [] := List.append_ne_nil_of_right_ne_nil xs (List.cons_ne_nil e ys)
  obtain ⟨f, hf⟩ := exists_defaultFor modelType hsome
  refine ⟨f, mem_expansions_iff hlisted (baseOf_eq hstated hf), ?_, ?_⟩
  · intro hnone
    have hown : defaultFor modelType (xs ++ e :: ys) = some e := defaultFor_own hof hfirst hnone
    exact Option.some.inj (hf.symm.trans hown)
  · intro us g vs hxs hg hus
    have hother : defaultFor modelType (xs ++ e :: ys) = some g :=
      defaultFor_overlapping hfirst hxs hg hus
    exact Option.some.inj (hf.symm.trans hother)

/-! ## Terminators -/

/-- Terminators whose sergeant is stated before them. -/
def terminators : Datasheet where
  id := "u"
  name := "Terminators"
  defaultLoadout := "The Terminator Sergeant is equipped with: power fist. " ++
    "Every Terminator is equipped with: power sword."
  roster := [⟨"1 Terminator Sergeant", 1, 1⟩, ⟨"4 Terminators", 4, 4⟩]
  weapons := []
  abilities := []
  options := [⟨"u", 1, "", "This model can be equipped with 1 axe."⟩]

/-- The option of the Terminators, as it is read. -/
def terminatorsOptions : List ParsedOption := [{
  line := 1
  rawText := "This model can be equipped with 1 axe."
  wargearParsed := true
  targeting := Targeting.plain "this-model" "this-model"
  action := ⟨"equip-with-single", .add, [], [⟨[⟨"axe", 1⟩], false⟩], false, none⟩
  constraints := .none }]

theorem parseOptions_terminators : parseOptions terminators.options = .ok terminatorsOptions := by
  decide +kernel

theorem parseDefaultLoadout_terminators :
    parseDefaultLoadout terminators.defaultLoadout terminators.roster
      = [⟨"Terminator Sergeant", ["power fist"]⟩] ++ ⟨"Terminator", ["power sword"]⟩ :: [] := by
  decide +kernel

/-- The entry stated before that of Terminators overlaps, and their expansion starts from it. -/
theorem terminator_from_overlap :
    "Terminator" ∈ modelTypes terminators.roster ∧
      DefaultLoadout.IsOf ⟨"Terminator", ["power sword"]⟩ "Terminator" ∧
      ¬ DefaultLoadout.IsOf ⟨"Terminator Sergeant", ["power fist"]⟩ "Terminator" ∧
      DefaultLoadout.Overlaps ⟨"Terminator Sergeant", ["power fist"]⟩ "Terminator" ∧
      ∀ x, ("Terminator", x) ∈ expansions terminators terminatorsOptions .standard ↔
        x = expand ["u:power-fist"] terminatorsOptions terminators.resolver .standard := by
  have hlisted : "Terminator" ∈ modelTypes terminators.roster := by decide +kernel
  have hof : DefaultLoadout.IsOf ⟨"Terminator", ["power sword"]⟩ "Terminator" := by decide +kernel
  have hother : ¬ DefaultLoadout.IsOf ⟨"Terminator Sergeant", ["power fist"]⟩ "Terminator" := by
    decide +kernel
  have hoverlaps : DefaultLoadout.Overlaps ⟨"Terminator Sergeant", ["power fist"]⟩ "Terminator" :=
    Or.inr (occurs_eq_true_iff.mp (by decide +kernel))
  obtain ⟨f, hexpanded, _, hfirst⟩ := expansion_of_listed terminators terminatorsOptions .standard
    hlisted parseDefaultLoadout_terminators hof fun f hf => List.mem_singleton.mp hf ▸ hother
  have hf := hfirst [] _ [] rfl hoverlaps fun k hk => absurd hk List.not_mem_nil
  subst hf
  exact ⟨hlisted, hof, hother, hoverlaps, hexpanded⟩

/-- Terminators have an entry of their own, and no loadout of theirs holds its power sword. -/
theorem not_own_default :
    parseOptions terminators.options = .ok terminatorsOptions ∧
      parseDefaultLoadout terminators.defaultLoadout terminators.roster
        = [⟨"Terminator Sergeant", ["power fist"]⟩] ++ ⟨"Terminator", ["power sword"]⟩ :: [] ∧
      "Terminator" ∈ modelTypes terminators.roster ∧
      ¬ DefaultLoadout.IsOf ⟨"Terminator Sergeant", ["power fist"]⟩ "Terminator" ∧
      DefaultLoadout.IsOf ⟨"Terminator", ["power sword"]⟩ "Terminator" ∧
      baseOf terminators "Terminator" ≠ some (["power sword"].map terminators.resolver.resolve) ∧
      (generateFrom terminators terminatorsOptions .standard).groups
        = [⟨anyModel, [["u:power-fist"], ["u:axe", "u:power-fist"]], none⟩] := by
  refine ⟨parseOptions_terminators, parseDefaultLoadout_terminators, by decide +kernel,
    by decide +kernel, by decide +kernel, by decide +kernel, ?_⟩
  rw [groups_generateFrom_eq (by decide +kernel)]
  simp only [group_eq, plainGroups, common, typeGroups, ownLoadouts, isCommon_eq,
    firsts_eq_eraseDups, typeLoadouts, expansions, expand, step_eq]
  decide +kernel

end Muster.Wargear
