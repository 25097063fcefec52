/-
  Isolation: what an option does not reach stays as it is.

  1. **Program.**  Only options that were read on both axes are expanded, and those that equip the
     unit as a whole apart from the rest.  But the constraints and the notes on groups are taken from
     ALL options, whether they were read or not.

  2. **Specification.**  An option is `Unheard` when no model hears of it: it states no constraint,
     it makes no note, and if it can change a loadout at all it equips the unit as a whole.

  3. **The crux.**  Each use of the options is blind to those that are unheard, so the loadouts of
     the model types are the same with and without them (`typeLoadouts_filter`), and with these the
     grouping, its names and its order.  Two kinds of options are unheard: what was read to say
     nothing makes no note, since it has no targeting (`targeting_eq_unknown`); and an option for the
     unit makes none by its type.

  4. **The group of the unit.**  It comes after all others and hangs on the options for the unit
     alone; on all of them, for one that states a constraint makes this group as well
     (`constrained_horn`).
-/
import Mathlib
import Muster.Proofs.Wargear.Footnote
import Muster.Proofs.Wargear.Legality

namespace Muster.Wargear

/-! ## Options that no model hears of -/

/-- The option reaches the loadouts of no model, neither by an action nor by a constraint or a
    note. -/
structure Unheard (o : ParsedOption) : Prop where
  unconstrained : o.constraints = .none
  unnoted : o.wargearParsed = true → o.targeting.note = none
  apart : o.isActionable = true → o.isUnitWide = true

/-- An option for the unit as a whole that states no constraint. -/
def ParsedOption.isSpare (o : ParsedOption) : Bool :=
  o.isUnitWide && o.constraints == .none

/-- A targeting of the unit makes no note. -/
theorem note_eq_none_of_isUnitWide {o : ParsedOption} (h : o.isUnitWide = true) :
    o.targeting.note = none := by
  rw [ParsedOption.isUnitWide, Bool.and_eq_true, beq_iff_eq] at h
  rw [Targeting.note, h.1]
  rfl

/-- An option for the unit was read on both axes. -/
theorem isActionable_of_isUnitWide {o : ParsedOption} (h : o.isUnitWide = true) :
    o.isActionable = true := by
  rw [ParsedOption.isUnitWide, Bool.and_eq_true, beq_iff_eq, beq_iff_eq] at h
  rw [ParsedOption.isActionable, Targeting.isKnown, Action.isKnown, h.1, h.2]
  rfl

theorem unheard_of_isSpare {o : ParsedOption} (h : o.isSpare = true) : Unheard o := by
  rw [ParsedOption.isSpare, Bool.and_eq_true, beq_iff_eq] at h
  exact ⟨h.2, fun _ => note_eq_none_of_isUnitWide h.1, fun _ => h.1⟩

/-- What cannot change a loadout and states no constraint is unheard, whether it was read or not. -/
theorem unheard_of_parse {text : String} {line : Int} {o : ParsedOption}
    (hparse : parse text line = .ok o) (hidle : o.isActionable = false)
    (hconstraints : o.constraints = .none) : Unheard o where
  unconstrained := hconstraints
  unnoted hread := by
    rw [targeting_eq_unknown hparse hread hidle]
    rfl
  apart h := by
    rw [hidle] at h
    cases h

/-! ## Uses of the options -/

/-- A test that all dropped items pass is not changed by dropping them. -/
theorem all_filter_of {α : Type} {keep p : α → Bool} : ∀ {as : List α},
    (∀ a ∈ as, keep a = false → p a = true) → (as.filter keep).all p = as.all p
  | [], _ => rfl
  | a :: as, h => by
    have hrest := all_filter_of fun b hb => h b (List.mem_cons_of_mem a hb)
    cases hkeep : keep a with
    | true => rw [List.filter_cons_of_pos hkeep, List.all_cons, List.all_cons, hrest]
    | false =>
      rw [List.filter_cons_of_neg (Bool.eq_false_iff.mp hkeep), hrest, List.all_cons,
        h a List.mem_cons_self hkeep, Bool.true_and]

/-- A search that finds nothing in what is dropped finds the same without it. -/
theorem findSome?_filter_of {α β : Type} {keep : α → Bool} {f : α → Option β} : ∀ {as : List α},
    (∀ a ∈ as, keep a = false → f a = none) → (as.filter keep).findSome? f = as.findSome? f
  | [], _ => rfl
  | a :: as, h => by
    have hrest := findSome?_filter_of fun b hb => h b (List.mem_cons_of_mem a hb)
    cases hkeep : keep a with
    | true => rw [List.filter_cons_of_pos hkeep, List.findSome?_cons, List.findSome?_cons, hrest]
    | false =>
      rw [List.filter_cons_of_neg (Bool.eq_false_iff.mp hkeep), hrest, List.findSome?_cons,
        h a List.mem_cons_self hkeep]

section Filter

variable {keep : ParsedOption → Bool} {os : List ParsedOption}
variable (h : ∀ o ∈ os, keep o = false → Unheard o)
include h

/-- Options that state nothing forbid nothing. -/
theorem allowed_filter (r : Resolver) : allowed (os.filter keep) r = allowed os r := by
  funext l
  rw [allowed, allowed]
  congr 1
  · refine all_filter_of fun o ho hkeep => ?_
    rw [(h o ho hkeep).unconstrained]
    rfl
  · refine all_filter_of fun o ho hkeep => ?_
    rw [(h o ho hkeep).unconstrained]
    rfl

/-- Options without a note are passed by in the search for the first. -/
theorem groupTargeting_filter (modelType : String) :
    groupTargeting modelType (os.filter keep) = groupTargeting modelType os := by
  refine findSome?_filter_of fun o ho hkeep => ?_
  cases hread : o.wargearParsed with
  | false => rfl
  | true =>
    rw [(h o ho hkeep).unnoted hread]
    split <;> rfl

/-- The options that change the loadouts of a model type are kept. -/
theorem applicable_filter (modelType : String) :
    applicable (os.filter keep) modelType = applicable os modelType := by
  rw [applicable, applicable, List.filter_filter]
  refine List.filter_congr fun o ho => ?_
  cases hkeep : keep o with
  | true => rw [Bool.and_true]
  | false =>
    have hapart := (h o ho hkeep).apart
    cases hactionable : o.isActionable with
    | false => rfl
    | true =>
      rw [hapart hactionable]
      rfl

theorem expansions_filter (d : Datasheet) (s : Settings) :
    expansions d (os.filter keep) s = expansions d os s := by
  rw [expansions, expansions]
  simp only [applicable_filter h]

theorem typeLoadouts_filter (d : Datasheet) (s : Settings) :
    typeLoadouts d (os.filter keep) s = typeLoadouts d os s := by
  rw [typeLoadouts, typeLoadouts, expansions_filter h]
  simp only [applyConstraints, allowed_filter h, groupTargeting_filter h]

end Filter

/-- What is the same without the dropped options is the same for all lists that differ in these. -/
theorem eq_of_kept {β : Type} {keep : ParsedOption → Bool} (use : List ParsedOption → β)
    (huse : ∀ os, use (os.filter keep) = use os) {os os' : List ParsedOption}
    (hkept : os.filter keep = os'.filter keep) : use os = use os' := by
  rw [← huse os, hkept, huse]

/-! ## An option that cannot change a loadout -/

/-- The lines of the options that were not read. -/
def unreadLines (os : List ParsedOption) : List Int :=
  (os.filter (!·.wargearParsed)).map ParsedOption.line

section Insert

variable {o : ParsedOption} (before after : List ParsedOption)

theorem unreadLines_insert : unreadLines (before ++ o :: after)
    = unreadLines before ++ (if o.wargearParsed then [] else [o.line]) ++ unreadLines after := by
  cases hread : o.wargearParsed <;> simp [unreadLines, hread]

/-- A part of the actionable options does not hold one that is not. -/
theorem filter_insert {p : ParsedOption → Bool} (hp : p o = false) :
    (before ++ o :: after).filter p = (before ++ after).filter p := by
  rw [List.filter_append, List.filter_append,
    List.filter_cons_of_neg (Bool.eq_false_iff.mp hp)]

/-- **An unheard option that cannot change a loadout is at most reported.** -/
theorem generateFrom_insert (hunheard : Unheard o) (hidle : o.isActionable = false)
    (d : Datasheet) (s : Settings) :
    generateFrom d (before ++ o :: after) s =
      { generateFrom d (before ++ after) s with
        report := { (generateFrom d (before ++ after) s).report with
          unparsedLines := unreadLines before ++ (if o.wargearParsed then [] else [o.line])
            ++ unreadLines after } } := by
  -- the two lists differ in copies of the option only, and those are unheard as well
  have hkept : (before ++ o :: after).filter (· != o) = (before ++ after).filter (· != o) :=
    filter_insert before after (bne_self_eq_false o)
  have hdropped : ∀ os : List ParsedOption, ∀ q ∈ os, (q != o) = false → Unheard q := by
    intro os q _ hq
    rw [bne_eq_false_iff_eq.mp hq]
    exact hunheard
  have hexpansions : expansions d (before ++ o :: after) s = expansions d (before ++ after) s :=
    eq_of_kept (expansions d · s) (fun os => expansions_filter (hdropped os) d s) hkept
  have hallowed : allowed (before ++ o :: after) d.resolver
      = allowed (before ++ after) d.resolver :=
    eq_of_kept (allowed · d.resolver) (fun os => allowed_filter (hdropped os) d.resolver) hkept
  have hnotes : ∀ t, groupTargeting t (before ++ o :: after) = groupTargeting t (before ++ after) :=
    fun t => eq_of_kept (groupTargeting t) (fun os => groupTargeting_filter (hdropped os) t) hkept
  have hunit : unitOptions (before ++ o :: after) = unitOptions (before ++ after) :=
    filter_insert before after (by rw [hidle, Bool.false_and])
  have hoptions : hasOptions (before ++ o :: after) = hasOptions (before ++ after) := by
    rw [hasOptions, hasOptions, List.any_append, List.any_append, List.any_cons, hidle,
      Bool.false_or]
  have heligibility : eligibility (before ++ o :: after) d.resolver
      = eligibility (before ++ after) d.resolver := by
    rw [eligibility, eligibility, grants, grants, filter_insert before after hidle]
  have hunread := unreadLines_insert (o := o) before after
  rw [unreadLines] at hunread
  simp only [generateFrom, hoptions, hunit, hexpansions, applyConstraints, hallowed, hnotes,
    heligibility, hunread]
  split <;> rfl

end Insert

/-! ## Options for the unit as a whole -/

theorem unitOptions_eq (os : List ParsedOption) :
    unitOptions os = os.filter ParsedOption.isUnitWide := by
  refine List.filter_congr fun o _ => ?_
  cases hunit : o.isUnitWide with
  | false => rw [Bool.and_false]
  | true => rw [isActionable_of_isUnitWide hunit, Bool.and_true]

/-- The unit has a group of its own exactly if some option is for it. -/
theorem unitGroups_ne_nil_iff {d : Datasheet} {os : List ParsedOption} {s : Settings} :
    unitGroups d os s ≠ [] ↔ ∃ o ∈ os, o.isUnitWide = true := by
  have hsome : unitOptions os ≠ [] ↔ ∃ o ∈ os, o.isUnitWide = true := by
    rw [unitOptions_eq, ne_eq, List.filter_eq_nil_iff]
    push Not
    rfl
  rw [← hsome]
  constructor
  · intro hgroups hnone
    rw [unitGroups, hnone] at hgroups
    exact hgroups rfl
  · intro hunit
    rw [unitGroups_eq_singleton hunit]
    exact List.cons_ne_nil _ _

theorem unitGroups_congr {d d' : Datasheet} {os os' : List ParsedOption}
    (hresolver : d'.resolver = d.resolver)
    (hunit : os'.filter ParsedOption.isUnitWide = os.filter ParsedOption.isUnitWide)
    (s : Settings) : unitGroups d' os' s = unitGroups d os s := by
  rw [unitGroups, unitGroups, unitOptions_eq, unitOptions_eq, hresolver, hunit]

/-- Renaming makes no name but that of any model. -/
theorem modelType_of_mem_renameLone {gs : List Group} {g : Group} (h : g ∈ renameLone gs) :
    g.modelType = anyModel ∨ ∃ k ∈ gs, g.modelType = k.modelType := by
  rcases gs with _ | ⟨k, _ | ⟨k', gs⟩⟩
  · exact absurd h List.not_mem_nil
  · rw [renameLone] at h
    split at h
    · rw [List.mem_singleton.mp h]
      exact Or.inl rfl
    · exact Or.inr ⟨g, h, rfl⟩
  · exact Or.inr ⟨g, h, rfl⟩

/-- A group of the models is named for any model or for one of their types. -/
theorem modelType_of_mem_group {ts : List TypeLoadouts} {typeCount : Nat} {g : Group}
    (hg : g ∈ group ts typeCount) :
    g.modelType = anyModel ∨ ∃ t ∈ ts, g.modelType = t.modelType := by
  rw [group_eq] at hg
  rcases modelType_of_mem_renameLone hg with hany | ⟨k, hk, hname⟩
  · exact Or.inl hany
  · rw [hname]
    rcases mem_plainGroups.mp hk with ⟨_, rfl⟩ | hk
    · exact Or.inl rfl
    · obtain ⟨t, ht, _, rfl⟩ := mem_typeGroups.mp hk
      exact Or.inr ⟨t, ht, rfl⟩

/-! ## Two runs -/

/-- **Options for the unit that state no constraint come and go** without a change to a group of the
    models, as long as there is an option that can change a loadout before and after. -/
theorem exists_modelGroups (d : Datasheet) (s : Settings) {os os' : List ParsedOption}
    (hkept : os.filter (!·.isSpare) = os'.filter (!·.isSpare))
    (hoptions : hasOptions os = true) (hoptions' : hasOptions os' = true) :
    ∃ gs, (generateFrom d os s).groups = gs ++ unitGroups d os s ∧
      (generateFrom d os' s).groups = gs ++ unitGroups d os' s ∧
      ∀ g ∈ gs, g.modelType = unitWide → unitWide ∈ modelTypes d.roster := by
  have hdropped : ∀ qs : List ParsedOption, ∀ q ∈ qs, (!q.isSpare) = false → Unheard q :=
    fun _ q _ hq => unheard_of_isSpare (by simpa using hq)
  have htypes : typeLoadouts d os s = typeLoadouts d os' s :=
    eq_of_kept (typeLoadouts d · s) (fun qs => typeLoadouts_filter (hdropped qs) d s) hkept
  refine ⟨group (typeLoadouts d os s) (modelTypes d.roster).length,
    groups_generateFrom_eq hoptions, ?_, ?_⟩
  · rw [htypes]
    exact groups_generateFrom_eq hoptions'
  · intro g hg hname
    rcases modelType_of_mem_group hg with hany | ⟨t, ht, htype⟩
    · rw [hname] at hany
      exact absurd hany (by decide)
    · rw [← hname, htype]
      exact (mem_typeLoadouts.mp ht).1

/-- **Excluded options and options for the unit do not leak.**  Inserting what cannot change a
    loadout and states no constraint changes no more than the lines reported as not read; and where
    an option that can change a loadout is there before and after, options for the unit that state
    no constraint come and go without a change to any group of the models.  The group of the unit,
    after these, is there exactly if some option is for the unit, and hangs on all such options. -/
theorem excluded_and_unit_isolated (d : Datasheet) (s : Settings) :
    (∀ (before after : List ParsedOption) (text : String) (line : Int) (o : ParsedOption),
      parse text line = .ok o → o.isActionable = false → o.constraints = .none →
      generateFrom d (before ++ o :: after) s =
        { generateFrom d (before ++ after) s with
          report := { (generateFrom d (before ++ after) s).report with
            unparsedLines := unreadLines before ++ (if o.wargearParsed then [] else [o.line])
              ++ unreadLines after } }) ∧
    (∀ os os' : List ParsedOption, os.filter (!·.isSpare) = os'.filter (!·.isSpare) →
      hasOptions os = true → hasOptions os' = true →
      ∃ gs, (generateFrom d os s).groups = gs ++ unitGroups d os s ∧
        (generateFrom d os' s).groups = gs ++ unitGroups d os' s ∧
        ∀ g ∈ gs, g.modelType = unitWide → unitWide ∈ modelTypes d.roster) ∧
    ∀ os : List ParsedOption, (unitGroups d os s ≠ [] ↔ ∃ o ∈ os, o.isUnitWide = true) ∧
      ∀ (d' : Datasheet) (os' : List ParsedOption), d'.resolver = d.resolver →
        os'.filter ParsedOption.isUnitWide = os.filter ParsedOption.isUnitWide →
        unitGroups d' os' s = unitGroups d os s := by
  refine ⟨?_, fun os os' => exists_modelGroups d s, fun os => ⟨unitGroups_ne_nil_iff,
    fun d' os' hresolver hunit => unitGroups_congr hresolver hunit s⟩⟩
  intro before after text line o hparse hidle hconstraints
  exact generateFrom_insert before after (unheard_of_parse hparse hidle hconstraints) hidle d s

/-! ## Heralds -/

/-- Heralds whose horn comes with a constraint. -/
def heralds : Datasheet where
  id := "u"
  name := "Heralds"
  defaultLoadout := "Every model is equipped with: bolter."
  roster := [⟨"4 Marines", 4, 4⟩]
  weapons := []
  abilities := []
  options := [
    ⟨"u", 1, "", "This model can be equipped with 1 axe."⟩,
    ⟨"u", 2, "", "This unit can be equipped with 1 horn. " ++
      "This unit cannot be equipped with both a banner and a horn."⟩]

/-- An axe for a model. -/
def axeOption : ParsedOption where
  line := 1
  rawText := "This model can be equipped with 1 axe."
  wargearParsed := true
  targeting := Targeting.plain "this-model" "this-model"
  action := ⟨"equip-with-single", .add, [], [⟨[⟨"axe", 1⟩], false⟩], false, none⟩
  constraints := .none

/-- A horn for the unit, without a constraint. -/
def hornOption : ParsedOption where
  line := 2
  rawText := "This unit can be equipped with 1 horn."
  wargearParsed := true
  targeting := Targeting.plain "this-unit" "this-unit"
  action := ⟨"equip-with-single", .add, [], [⟨[⟨"horn", 1⟩], false⟩], false, none⟩
  constraints := .none

/-- A footnote that goes on like an option for the unit. -/
def bannerNote : ParsedOption where
  line := 3
  rawText := "*This unit can be equipped with 1 banner."
  wargearParsed := true
  targeting := .unknown
  action := ⟨"equip-with-single", .add, [], [⟨[⟨"banner", 1⟩], false⟩], false, none⟩
  constraints := .none

/-- The options of the heralds, as they are read. -/
def heraldsOptions : List ParsedOption := [axeOption, {
  line := 2
  rawText := "This unit can be equipped with 1 horn. " ++
    "This unit cannot be equipped with both a banner and a horn."
  wargearParsed := true
  targeting := Targeting.plain "this-unit" "this-unit"
  action := ⟨"equip-with-single", .add, [], [⟨[⟨"horn", 1⟩], false⟩], false, none⟩
  constraints := { Constraints.none with mutuallyExclusive := [("banner", "horn")] } }]

/-- A footnote changes nothing for heralds with an axe and a horn, and a horn nothing for their
    models. -/
theorem isolated_axe :
    (parse "*This unit can be equipped with 1 banner." 3 = .ok bannerNote ∧
      generateFrom heralds ([axeOption] ++ bannerNote :: [hornOption]) .standard =
        { generateFrom heralds ([axeOption] ++ [hornOption]) .standard with
          report := { (generateFrom heralds ([axeOption] ++ [hornOption]) .standard).report with
            unparsedLines := [] } }) ∧
    (hornOption.isSpare = true ∧ axeOption.isActionable = true ∧
      ∃ gs, (generateFrom heralds [axeOption, hornOption] .standard).groups
          = gs ++ unitGroups heralds [axeOption, hornOption] .standard ∧
        (generateFrom heralds [axeOption] .standard).groups = gs) := by
  obtain ⟨hinsert, hspare, hunit⟩ := excluded_and_unit_isolated heralds .standard
  have hparse : parse "*This unit can be equipped with 1 banner." 3 = .ok bannerNote := by
    decide +kernel
  have hkept : [axeOption, hornOption].filter (!·.isSpare) = [axeOption].filter (!·.isSpare) := by
    decide +kernel
  obtain ⟨gs, hwith, hwithout, _⟩ := hspare _ _ hkept (by decide) (by decide)
  refine ⟨⟨hparse, hinsert [axeOption] [hornOption] _ 3 bannerNote hparse (by decide) rfl⟩,
    by decide +kernel, by decide +kernel, gs, hwith, ?_⟩
  -- without the horn the unit has no group
  have hnone : unitGroups heralds [axeOption] .standard = [] := by
    by_contra hsome
    obtain ⟨o, ho, hwide⟩ := (hunit [axeOption]).1.mp hsome
    rw [List.mem_singleton.mp ho] at hwide
    exact absurd hwide (by decide)
  rw [hwithout, hnone, List.append_nil]

/-- The heralds have a group of the unit, and none of their options for it is without a
    constraint. -/
theorem constrained_horn :
    parseOptions heralds.options = .ok heraldsOptions ∧
      (∃ g ∈ (generateFrom heralds heraldsOptions .standard).groups, g.modelType = unitWide) ∧
      ¬ ∃ o ∈ heraldsOptions, o.targeting.type = "this-unit" ∧ o.action.type = .add ∧
        o.constraints = .none := by
  refine ⟨by decide +kernel, ?_, by decide +kernel⟩
  rw [groups_generateFrom_eq (by decide +kernel), unitGroups_eq_singleton (by decide +kernel)]
  exact ⟨_, List.mem_append_right _ (List.mem_singleton_self _), rfl⟩

end Muster.Wargear
