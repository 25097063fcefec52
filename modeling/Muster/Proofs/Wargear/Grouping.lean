/-
  Grouping: regrouping the loadouts of model types neither loses nor adds one.

  1. **Program.**  `group` counts how often each loadout is listed over all model types.  What is
     listed as often as there are types goes into one group for any model, the rest into a group of
     its type, and a lone group without a note is renamed to hold for any model.  The validator puts
     the pieces together again, by names that need only be the same up to case and a plural `s`.

  2. **Specification.**  `legalLoadouts` are the loadouts of one model type as they were before the
     grouping: what the options reach from its default and the constraints allow.

  3. **The crux** is the count.  A list without repetitions counts a loadout at most once, so a
     count of as many as there are types is only reached if every list has it (`mem_of_isCommon`);
     what a type finds in the group for any model is therefore its own.  Renaming is harmless
     because the lone group is then the group of the type that asks (`mem_offered_renameLone`).
-/
import Mathlib
import Muster.Proofs.Wargear.Expansion
import Muster.Proofs.Wargear.Validation

namespace Muster.Wargear

/-! ## Counting -/

/-- Counting the loadouts of one type adds how often it lists each. -/
theorem getD_count (ls : List Loadout) (l : Loadout) : ∀ m : Std.HashMap Loadout Nat,
    (ls.foldl (fun m l => m.insert l (m.getD l 0 + 1)) m).getD l 0 = m.getD l 0 + ls.count l := by
  induction ls with
  | nil => intro m; rfl
  | cons k ks ih =>
    intro m
    rw [List.foldl_cons, ih, Std.HashMap.getD_insert, List.count_cons]
    by_cases hkl : k = l
    · subst hkl
      rw [if_pos (beq_self_eq_true k), if_pos (beq_self_eq_true k)]
      omega
    · rw [if_neg (by simpa using hkl), if_neg (by simpa using hkl)]
      rfl

/-- The tally of a loadout is how often all types together list it. -/
theorem getD_tally (ts : List TypeLoadouts) (l : Loadout) :
    (tally ts).getD l 0 = (ts.map fun t => t.loadouts.count l).sum := by
  have hrun : ∀ m : Std.HashMap Loadout Nat,
      (ts.foldl (fun m t => t.loadouts.foldl (fun m l => m.insert l (m.getD l 0 + 1)) m) m).getD l 0
        = m.getD l 0 + (ts.map fun t => t.loadouts.count l).sum := by
    induction ts with
    | nil => intro m; rfl
    | cons t ts ih =>
      intro m
      rw [List.foldl_cons, ih, getD_count, List.map_cons, List.sum_cons, Nat.add_assoc]
  rw [tally, hrun, Std.HashMap.getD_empty, Nat.zero_add]

/-- Where no type lists a loadout twice, its tally is the number of types that list it. -/
theorem getD_tally_of_nodup {ts : List TypeLoadouts} (hnodup : ∀ t ∈ ts, t.loadouts.Nodup)
    (l : Loadout) : (tally ts).getD l 0 = ts.countP fun t => decide (l ∈ t.loadouts) := by
  rw [getD_tally]
  induction ts with
  | nil => rfl
  | cons t ts ih =>
    rw [List.map_cons, List.sum_cons, List.countP_cons,
      ih fun u hu => hnodup u (List.mem_cons_of_mem t hu)]
    by_cases hl : l ∈ t.loadouts
    · rw [List.count_eq_one_of_mem (hnodup t List.mem_cons_self) hl, if_pos (decide_eq_true hl)]
      omega
    · rw [List.count_eq_zero.mpr hl, if_neg (by simpa using hl)]
      omega

/-! ## The pieces of a grouping -/

/-- A loadout that is listed as often as there are types, of which there are several. -/
def isCommon (ts : List TypeLoadouts) (typeCount : Nat) (l : Loadout) : Bool :=
  decide (typeCount > 1) && (tally ts).getD l 0 == typeCount

/-- The loadouts of the group for any model. -/
def common (ts : List TypeLoadouts) (typeCount : Nat) : List Loadout :=
  firsts (ts.flatMap fun t => t.loadouts.filter (isCommon ts typeCount))

/-- The loadouts that stay with their type. -/
def ownLoadouts (ts : List TypeLoadouts) (typeCount : Nat) (t : TypeLoadouts) : List Loadout :=
  t.loadouts.filter fun l => !isCommon ts typeCount l

/-- The groups of single types. -/
def typeGroups (ts : List TypeLoadouts) (typeCount : Nat) : List Group :=
  ts.filterMap fun t =>
    if (ownLoadouts ts typeCount t).isEmpty then none
    else some ⟨t.modelType, ownLoadouts ts typeCount t, t.targeting⟩

/-- The groups before a lone one is renamed. -/
def plainGroups (ts : List TypeLoadouts) (typeCount : Nat) : List Group :=
  if (common ts typeCount).isEmpty then typeGroups ts typeCount
  else ⟨anyModel, common ts typeCount, none⟩ :: typeGroups ts typeCount

theorem group_eq (ts : List TypeLoadouts) (typeCount : Nat) :
    group ts typeCount = renameLone (plainGroups ts typeCount) := rfl

/-- **A common loadout belongs to every type.**  There are at most as many lists as types, and each
    counts a loadout once at most. -/
theorem mem_of_isCommon {ts : List TypeLoadouts} {typeCount : Nat}
    (hnodup : ∀ t ∈ ts, t.loadouts.Nodup) (hshort : ts.length ≤ typeCount) {l : Loadout}
    (h : isCommon ts typeCount l = true) : 1 < typeCount ∧ ∀ t ∈ ts, l ∈ t.loadouts := by
  rw [isCommon, Bool.and_eq_true, decide_eq_true_eq, beq_iff_eq, getD_tally_of_nodup hnodup] at h
  obtain ⟨hseveral, hcount⟩ := h
  refine ⟨hseveral, ?_⟩
  have hle : ts.countP (fun t => decide (l ∈ t.loadouts)) ≤ ts.length := List.countP_le_length
  have hfull : ts.countP (fun t => decide (l ∈ t.loadouts)) = ts.length := by omega
  intro t ht
  exact of_decide_eq_true (List.countP_eq_length.mp hfull t ht)

/-- What is common, in terms of counts alone: in this form a grouping can be evaluated. -/
theorem isCommon_eq (ts : List TypeLoadouts) (typeCount : Nat) : isCommon ts typeCount = fun l =>
    decide (typeCount > 1) && (ts.map fun t => t.loadouts.count l).sum == typeCount := by
  funext l
  rw [isCommon, getD_tally]

theorem mem_common {ts : List TypeLoadouts} {typeCount : Nat} {l : Loadout} :
    l ∈ common ts typeCount ↔ isCommon ts typeCount l = true ∧ ∃ t ∈ ts, l ∈ t.loadouts := by
  rw [common, mem_firsts, List.mem_flatMap]
  constructor
  · rintro ⟨t, ht, hl⟩
    obtain ⟨hmem, hcommon⟩ := List.mem_filter.mp hl
    exact ⟨hcommon, t, ht, hmem⟩
  · rintro ⟨hcommon, t, ht, hmem⟩
    exact ⟨t, ht, List.mem_filter.mpr ⟨hmem, hcommon⟩⟩

theorem mem_ownLoadouts {ts : List TypeLoadouts} {typeCount : Nat} {t : TypeLoadouts}
    {l : Loadout} :
    l ∈ ownLoadouts ts typeCount t ↔ l ∈ t.loadouts ∧ ¬ isCommon ts typeCount l = true := by
  rw [ownLoadouts, List.mem_filter, Bool.not_eq_true', ← Bool.not_eq_true]

theorem mem_typeGroups {ts : List TypeLoadouts} {typeCount : Nat} {g : Group} :
    g ∈ typeGroups ts typeCount ↔ ∃ t ∈ ts, ownLoadouts ts typeCount t ≠ [] ∧
      g = ⟨t.modelType, ownLoadouts ts typeCount t, t.targeting⟩ := by
  rw [typeGroups, List.mem_filterMap]
  constructor
  · rintro ⟨t, ht, h⟩
    split at h
    · cases h
    · rename_i hsome
      exact ⟨t, ht, fun hnil => hsome (List.isEmpty_iff.mpr hnil), (Option.some.inj h).symm⟩
  · rintro ⟨t, ht, hne, rfl⟩
    exact ⟨t, ht, if_neg fun hempty => hne (List.isEmpty_iff.mp hempty)⟩

theorem mem_plainGroups {ts : List TypeLoadouts} {typeCount : Nat} {g : Group} :
    g ∈ plainGroups ts typeCount ↔
      (common ts typeCount ≠ [] ∧ g = ⟨anyModel, common ts typeCount, none⟩) ∨
      g ∈ typeGroups ts typeCount := by
  rw [plainGroups]
  split
  · rename_i hempty
    exact ⟨Or.inr, fun h => h.resolve_left fun hany => hany.1 (List.isEmpty_iff.mp hempty)⟩
  · rename_i hsome
    have hne : common ts typeCount ≠ [] := fun hnil => hsome (List.isEmpty_iff.mpr hnil)
    rw [List.mem_cons]
    exact ⟨fun h => h.imp (fun hg => ⟨hne, hg⟩) id, fun h => h.imp And.right id⟩

/-- **A loadout lies in a piece of its own type**: some piece that is offered to the type holds it,
    and holds nothing that is not a loadout of the type. -/
theorem exists_piece {ts : List TypeLoadouts} {typeCount : Nat}
    (hnodup : ∀ t ∈ ts, t.loadouts.Nodup) (hshort : ts.length ≤ typeCount) {t : TypeLoadouts}
    (ht : t ∈ ts) {l : Loadout} (hl : l ∈ t.loadouts) :
    ∃ k ∈ plainGroups ts typeCount, (k.modelType = anyModel ∨ k.modelType = t.modelType) ∧
      l ∈ k.items ∧ ∀ m ∈ k.items, m ∈ t.loadouts := by
  by_cases hcommon : isCommon ts typeCount l = true
  · have hmem : l ∈ common ts typeCount := mem_common.mpr ⟨hcommon, t, ht, hl⟩
    refine ⟨⟨anyModel, common ts typeCount, none⟩, ?_, Or.inl rfl, hmem, fun m hm => ?_⟩
    · exact mem_plainGroups.mpr (Or.inl ⟨List.ne_nil_of_mem hmem, rfl⟩)
    · exact (mem_of_isCommon hnodup hshort (mem_common.mp hm).1).2 t ht
  · have hmem : l ∈ ownLoadouts ts typeCount t := mem_ownLoadouts.mpr ⟨hl, hcommon⟩
    refine ⟨⟨t.modelType, ownLoadouts ts typeCount t, t.targeting⟩, ?_, Or.inr rfl, hmem,
      fun m hm => ?_⟩
    · exact mem_plainGroups.mpr (Or.inr (mem_typeGroups.mpr ⟨t, ht, List.ne_nil_of_mem hmem, rfl⟩))
    · exact (mem_ownLoadouts.mp hm).1

/-! ## What a grouping offers -/

/-- The loadouts of model types that a grouping keeps apart: no list repeats a loadout, there are no
    more lists than types, and a name matches the list of its own type only.  Where there are
    several types, none is the one that stands for any model. -/
structure Separate (ts : List TypeLoadouts) (typeCount : Nat) : Prop where
  nodup : ∀ t ∈ ts, t.loadouts.Nodup
  short : ts.length ≤ typeCount
  matched : ∀ t ∈ ts, matchesGroup t.modelType t.modelType = true
  unmatched : ∀ t ∈ ts, ∀ u ∈ ts, matchesGroup t.modelType u.modelType = true → t = u
  named : 1 < typeCount → ∀ t ∈ ts, t.modelType ≠ anyModel

namespace Separate

variable {ts : List TypeLoadouts} {typeCount : Nat}

theorem oneAnyGroup (h : Separate ts typeCount) : OneAnyGroup (plainGroups ts typeCount) := by
  -- a group of a type is no second group for any model beside the common one
  have hno : common ts typeCount ≠ [] → ∀ t ∈ ts, t.modelType ≠ anyModel := by
    intro hne
    obtain ⟨l, hl⟩ := List.exists_mem_of_ne_nil _ hne
    exact h.named (mem_of_isCommon h.nodup h.short (mem_common.mp hl).1).1
  intro g₁ hg₁ g₂ hg₂ hname₁ hname₂
  rcases mem_plainGroups.mp hg₁ with ⟨hne, rfl⟩ | hg₁ <;>
    rcases mem_plainGroups.mp hg₂ with ⟨hne', rfl⟩ | hg₂
  · rfl
  · obtain ⟨u, hu, _, rfl⟩ := mem_typeGroups.mp hg₂
    exact absurd hname₂ (hno hne u hu)
  · obtain ⟨t, ht, _, rfl⟩ := mem_typeGroups.mp hg₁
    exact absurd hname₁ (hno hne' t ht)
  · obtain ⟨t, ht, _, rfl⟩ := mem_typeGroups.mp hg₁
    obtain ⟨u, hu, _, rfl⟩ := mem_typeGroups.mp hg₂
    have hmatch : matchesGroup t.modelType u.modelType = true := by
      rw [show u.modelType = anyModel from hname₂]
      exact matchesGroup_any t.modelType
    rw [h.unmatched t ht u hu hmatch]

/-- **The pieces offer each type its own loadouts**, no more and no fewer. -/
theorem mem_offered_plainGroups (h : Separate ts typeCount) {t : TypeLoadouts} (ht : t ∈ ts)
    {l : Loadout} : l ∈ offered t.modelType (plainGroups ts typeCount) ↔ l ∈ t.loadouts := by
  rw [mem_offered h.oneAnyGroup]
  constructor
  · rintro ⟨g, hg, hmatch, hl⟩
    rcases mem_plainGroups.mp hg with ⟨_, rfl⟩ | hg
    · exact (mem_of_isCommon h.nodup h.short (mem_common.mp hl).1).2 t ht
    · obtain ⟨u, hu, _, rfl⟩ := mem_typeGroups.mp hg
      obtain rfl : t = u := h.unmatched t ht u hu hmatch
      exact (mem_ownLoadouts.mp hl).1
  · intro hl
    obtain ⟨k, hk, hname, hl, _⟩ := exists_piece h.nodup h.short ht hl
    refine ⟨k, hk, ?_, hl⟩
    rcases hname with hname | hname
    · rw [hname]
      exact matchesGroup_any t.modelType
    · rw [hname]
      exact h.matched t ht

end Separate

/-- Renaming a lone group changes nothing for a type that it is offered to. -/
theorem mem_offered_renameLone {modelType : String} {gs : List Group} (hone : OneAnyGroup gs)
    (hsome : offered modelType gs ≠ []) {l : Loadout} :
    l ∈ offered modelType (renameLone gs) ↔ l ∈ offered modelType gs := by
  have hlone : ∀ g : Group, OneAnyGroup [g] := by
    intro g g₁ h₁ g₂ h₂ _ _
    rw [List.mem_singleton.mp h₁, List.mem_singleton.mp h₂]
  rcases gs with _ | ⟨g, _ | ⟨g', gs⟩⟩
  · rfl
  · rw [renameLone]
    split
    · obtain ⟨k, hk⟩ := List.exists_mem_of_ne_nil _ hsome
      obtain ⟨g', hg', hmatch, _⟩ := (mem_offered hone).mp hk
      rw [List.mem_singleton.mp hg'] at hmatch
      -- both names match, so both ways the items are those of the group
      rw [mem_offered (hlone _), mem_offered hone]
      simp only [List.mem_singleton, exists_eq_left, hmatch, matchesGroup_any]
    · rfl
  · rfl

/-- A grouping of separate types offers each type that has loadouts exactly those. -/
theorem Separate.mem_offered_group {ts : List TypeLoadouts} {typeCount : Nat}
    (h : Separate ts typeCount) {modelType : String} {ls : List Loadout}
    {note : Option GroupTargeting} (ht : ⟨modelType, ls, note⟩ ∈ ts) (hsome : ls ≠ [])
    {l : Loadout} : l ∈ offered modelType (group ts typeCount) ↔ l ∈ ls := by
  have hplain : ∀ k, k ∈ offered modelType (plainGroups ts typeCount) ↔ k ∈ ls :=
    fun k => h.mem_offered_plainGroups ht
  have hoffered : offered modelType (plainGroups ts typeCount) ≠ [] := by
    obtain ⟨k, hk⟩ := List.exists_mem_of_ne_nil _ hsome
    exact List.ne_nil_of_mem ((hplain k).mpr hk)
  rw [group_eq, mem_offered_renameLone h.oneAnyGroup hoffered, hplain]

/-! ## Generated groups -/

/-- The loadouts of a model type before the grouping: what the options reach from its default and
    the constraints allow.  There are none for a type without a default. -/
def legalLoadouts (d : Datasheet) (os : List ParsedOption) (s : Settings) (modelType : String) :
    List Loadout :=
  match baseOf d modelType with
  | none => []
  | some base =>
    applyConstraints (expand base (applicable os modelType) d.resolver s).loadouts os d.resolver

/-- What a generation run groups. -/
def typeLoadouts (d : Datasheet) (os : List ParsedOption) (s : Settings) : List TypeLoadouts :=
  (expansions d os s).map fun p =>
    ⟨p.1, applyConstraints p.2.loadouts os d.resolver, groupTargeting p.1 os⟩

/-- The group for the unit as a whole, if there are options for it. -/
def unitGroups (d : Datasheet) (os : List ParsedOption) (s : Settings) : List Group :=
  if (unitOptions os).isEmpty then []
  else [⟨unitWide, (expand [] (unitOptions os) d.resolver s).loadouts, none⟩]

/-- **The groups of a run**: the grouping of its model types, and after it the group for the unit as
    a whole. -/
theorem groups_generateFrom_eq {d : Datasheet} {os : List ParsedOption} {s : Settings}
    (hoptions : hasOptions os = true) :
    (generateFrom d os s).groups
      = group (typeLoadouts d os s) (modelTypes d.roster).length ++ unitGroups d os s := by
  rw [generateFrom, if_pos hoptions, unitGroups]
  dsimp only
  split
  · rw [List.append_nil]
    rfl
  · rfl

/-- The groups of a run are the grouping of its model types, and perhaps one for the whole unit. -/
theorem groups_generateFrom {d : Datasheet} {os : List ParsedOption} {s : Settings}
    (hoptions : hasOptions os = true) :
    let groups := group (typeLoadouts d os s) (modelTypes d.roster).length
    (generateFrom d os s).groups = groups ∨
      ∃ items, (generateFrom d os s).groups = groups ++ [⟨unitWide, items, none⟩] := by
  rw [groups_generateFrom_eq hoptions, unitGroups]
  dsimp only
  split
  · exact Or.inl (List.append_nil _)
  · exact Or.inr ⟨_, rfl⟩

theorem mem_typeLoadouts {d : Datasheet} {os : List ParsedOption} {s : Settings}
    {t : TypeLoadouts} :
    t ∈ typeLoadouts d os s ↔ t.modelType ∈ modelTypes d.roster ∧ baseOf d t.modelType ≠ none ∧
      t = ⟨t.modelType, legalLoadouts d os s t.modelType, groupTargeting t.modelType os⟩ := by
  rw [typeLoadouts, List.mem_map]
  constructor
  · rintro ⟨p, hp, rfl⟩
    obtain ⟨modelType, hmem, hp⟩ := List.mem_filterMap.mp hp
    obtain ⟨base, hbase, rfl⟩ := Option.map_eq_some_iff.mp hp
    refine ⟨hmem, ?_, ?_⟩
    · dsimp only
      rw [hbase]
      exact Option.some_ne_none base
    · dsimp only
      rw [legalLoadouts, hbase]
  · rintro ⟨hmem, hne, ht⟩
    obtain ⟨base, hbase⟩ := Option.ne_none_iff_exists'.mp hne
    refine ⟨(t.modelType, expand base (applicable os t.modelType) d.resolver s), ?_, ?_⟩
    · exact List.mem_filterMap.mpr ⟨t.modelType, hmem, by rw [hbase]; rfl⟩
    · rw [ht, legalLoadouts, hbase]

theorem length_typeLoadouts_le (d : Datasheet) (os : List ParsedOption) (s : Settings) :
    (typeLoadouts d os s).length ≤ (modelTypes d.roster).length := by
  rw [typeLoadouts, List.length_map]
  exact List.length_filterMap_le _ _

theorem nodup_legalLoadouts (d : Datasheet) (os : List ParsedOption) (s : Settings)
    (modelType : String) : (legalLoadouts d os s modelType).Nodup := by
  rw [legalLoadouts]
  split
  · exact List.nodup_nil
  · exact (nodup_expand _ _ _ _).filter _

theorem nodup_of_mem_typeLoadouts {d : Datasheet} {os : List ParsedOption} {s : Settings}
    {t : TypeLoadouts} (ht : t ∈ typeLoadouts d os s) : t.loadouts.Nodup := by
  rw [(mem_typeLoadouts.mp ht).2.2]
  exact nodup_legalLoadouts d os s t.modelType

/-- Without a roster there is one model type. -/
theorem roster_ne_nil_of_several {roster : List RosterEntry}
    (h : 1 < (modelTypes roster).length) : roster ≠ [] := by
  rintro rfl
  exact absurd h (lt_irrefl 1)

/-- Model types that do not match one another are kept apart. -/
theorem separate_typeLoadouts {d : Datasheet} (os : List ParsedOption) (s : Settings)
    (hapart : ∀ a ∈ modelTypes d.roster, ∀ b ∈ modelTypes d.roster, a ≠ b →
      matchesGroup a b = false)
    (hnamed : d.roster ≠ [] → ∀ a ∈ modelTypes d.roster, a ≠ anyModel ∧ a ≠ unitWide) :
    Separate (typeLoadouts d os s) (modelTypes d.roster).length where
  nodup := fun _ ht => nodup_of_mem_typeLoadouts ht
  short := length_typeLoadouts_le d os s
  matched := by
    intro t ht
    have hmem := (mem_typeLoadouts.mp ht).1
    by_cases hroster : d.roster = []
    · rw [hroster] at hmem
      rw [List.mem_singleton.mp hmem]
      exact matchesGroup_any anyModel
    · exact matchesGroup_self (hnamed hroster t.modelType hmem).2
  unmatched := by
    intro t ht u hu hmatch
    obtain ⟨hmem, _, heq⟩ := mem_typeLoadouts.mp ht
    obtain ⟨hmem', _, heq'⟩ := mem_typeLoadouts.mp hu
    have hsame : t.modelType = u.modelType := by
      by_contra hne
      rw [hapart _ hmem _ hmem' hne] at hmatch
      exact Bool.false_ne_true hmatch
    -- the name of a type determines its loadouts and its note
    rw [heq, heq', hsame]
  named := by
    intro hseveral t ht
    exact (hnamed (roster_ne_nil_of_several hseveral) t.modelType (mem_typeLoadouts.mp ht).1).1

/-- **Generator and validator agree.**  Where the names of the model types do not match one another,
    the generated groups hold a loadout of a type to be valid exactly if it is a permutation of one
    of its legal loadouts: regrouping loses none and adds none. -/
theorem isValid_generateFrom_iff {d : Datasheet} {os : List ParsedOption} {s : Settings}
    {modelType : String}
    (hapart : ∀ a ∈ modelTypes d.roster, ∀ b ∈ modelTypes d.roster, a ≠ b →
      matchesGroup a b = false)
    (hnamed : d.roster ≠ [] → ∀ a ∈ modelTypes d.roster, a ≠ anyModel ∧ a ≠ unitWide)
    (hoptions : hasOptions os = true) (hlisted : modelType ∈ modelTypes d.roster)
    (hsome : legalLoadouts d os s modelType ≠ []) (loadout : List String) :
    (validateLoadout modelType loadout (generateFrom d os s).groups).isValid = true ↔
      ∃ l ∈ legalLoadouts d os s modelType, loadout.Perm l := by
  have hbase : baseOf d modelType ≠ none := by
    intro hnone
    rw [legalLoadouts, hnone] at hsome
    exact hsome rfl
  have ht : ⟨modelType, legalLoadouts d os s modelType, groupTargeting modelType os⟩
      ∈ typeLoadouts d os s := mem_typeLoadouts.mpr ⟨hlisted, hbase, rfl⟩
  have hgroup : ∀ l, l ∈ offered modelType (generateFrom d os s).groups ↔
      l ∈ legalLoadouts d os s modelType := by
    intro l
    have hoffered := (separate_typeLoadouts os s hapart hnamed).mem_offered_group ht hsome (l := l)
    rcases groups_generateFrom (d := d) (s := s) hoptions with h | ⟨items, h⟩
    · rw [h]
      exact hoffered
    · rw [h, offered_append_unitWide]
      exact hoffered
  have hne : offered modelType (generateFrom d os s).groups ≠ [] := by
    obtain ⟨k, hk⟩ := List.exists_mem_of_ne_nil _ hsome
    exact List.ne_nil_of_mem ((hgroup k).mpr hk)
  rw [isValid_iff_offered]
  constructor
  · intro h
    obtain ⟨l, hl, hperm⟩ := h.resolve_left hne
    exact ⟨l, (hgroup l).mp hl, hperm⟩
  · rintro ⟨l, hl, hperm⟩
    exact Or.inr ⟨l, (hgroup l).mpr hl, hperm⟩

/-- A squad of two model types, with one option for the first. -/
def squad : Datasheet where
  id := "u"
  name := "Squad"
  defaultLoadout := "Every model is equipped with: bolter; knife."
  roster := [⟨"1 Sergeant", 1, 1⟩, ⟨"4 Marines", 4, 4⟩]
  weapons := []
  abilities := []
  options := [⟨"u", 1, "", "The Sergeant's bolter can be replaced with 1 plasma pistol."⟩]

/-- The option of the squad, as it is read. -/
def squadOptions : List ParsedOption := [{
  line := 1
  rawText := "The Sergeant's bolter can be replaced with 1 plasma pistol."
  wargearParsed := true
  targeting := { Targeting.plain "specific-model" "specific-model" with
    modelType := some "Sergeant" }
  action := ⟨"replace-with-single", .replace, [⟨"bolter", 1⟩], [⟨[⟨"plasma pistol", 1⟩], false⟩],
    false, none⟩
  constraints := ⟨[], [], [], [], false, false, false, none⟩ }]

/-- The sergeant of the squad may have the plasma pistol in place of the bolter, in whatever order it
    is listed with the knife. -/
theorem isValid_sergeant :
    (validateLoadout "Sergeant" ["u:plasma-pistol", "u:knife"]
      (generateFrom squad squadOptions .standard).groups).isValid = true := by
  have hlegal : ["u:knife", "u:plasma-pistol"]
      ∈ legalLoadouts squad squadOptions .standard "Sergeant" := by
    simp only [legalLoadouts, expand, step_eq]
    decide +kernel
  refine (isValid_generateFrom_iff (by decide +kernel) (fun _ => by decide +kernel)
    (by decide +kernel) (by decide +kernel) (List.ne_nil_of_mem hlegal) _).mpr ⟨_, hlegal, ?_⟩
  decide +kernel

end Muster.Wargear
