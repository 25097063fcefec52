/-
  Eligibility: the table of clauses and the enumeration speak of the same models.

  1. **Program.**  The options are read twice.  Enumeration asks of each option whether it reaches a
     model type, and lets the type take what the option adds.  Eligibility asks nothing of model
     types: it turns each option into a clause for what it adds, and merges the clauses of an item.

  2. **Specification.**  `Clause.covers` says which model types a clause admits.

  3. **Where an item comes from.**  A loadout that a walk reaches holds nothing but items of the base
     and items that some option of the walk adds (`Reaches.mem_or_added`); the options of the walk
     are among those that reach the type.

  4. **The crux** is that both readings agree on one option (`covers_clauseOf_iff`), and that merging
     keeps what is covered (`covers_mergeClauses`).  They agree on all targetings but one: a
     conditional one that names a model reaches every type, but its clause admits that model alone.
-/
import Mathlib
import Muster.Proofs.Wargear.Grouping

namespace Muster.Wargear

open Text

/-! ## Where an item comes from -/

/-- The ids that an option can put into a loadout. -/
def ParsedOption.added (o : ParsedOption) (r : Resolver) : List String :=
  o.action.adds.flatMap r.resolveChoice

/-- What an exchange leaves was there before or was put in. -/
theorem Exchanged.mem_or_mem {l : Loadout} {removed added : List String} {l' : Loadout}
    (h : Exchanged l removed added l') {a : String} (ha : a ∈ l') : a ∈ l ∨ a ∈ added := by
  by_contra hnone
  obtain ⟨hl, hadded⟩ := not_or.mp hnone
  have hcount := h.count a
  rw [if_neg fun hboth => hl hboth.1, if_neg hadded] at hcount
  exact absurd ha (List.count_eq_zero.mp hcount)

theorem Variant.mem_or_added {r : Resolver} {o : ParsedOption} {l l' : Loadout}
    (h : Variant r o l l') {a : String} (ha : a ∈ l') : a ∈ l ∨ a ∈ o.added r := by
  cases h with
  | replace _ _ _ c listed exchanged =>
    rcases exchanged.mem_or_mem ha with ha | ha
    · exact Or.inl ha
    · exact Or.inr (List.mem_flatMap.mpr ⟨c, listed, ha⟩)
  | add _ _ x exchanged =>
    rcases exchanged.mem_or_mem ha with ha | ha
    · exact Or.inl ha
    · obtain ⟨c, hc, ha⟩ := List.mem_flatMap.mp ha
      obtain ⟨i, _, rfl⟩ := List.mem_map.mp hc
      exact Or.inr (List.mem_flatMap.mpr ⟨_, List.get_mem _ i, ha⟩)

/-- **Each item of a reached loadout** was there from the start or was added on the way. -/
theorem Reaches.mem_or_added {r : Resolver} {os : List ParsedOption} {l m : Loadout}
    (h : Reaches r os l m) {a : String} (ha : a ∈ m) : a ∈ l ∨ ∃ o ∈ os, a ∈ o.added r := by
  induction h with
  | done => exact Or.inl ha
  | @keep o os _ _ _ ih =>
    rcases ih ha with hl | ⟨p, hp, hadded⟩
    · exact Or.inl hl
    · exact Or.inr ⟨p, List.mem_cons_of_mem o hp, hadded⟩
  | @take o os _ _ _ hv _ ih =>
    rcases ih ha with hl | ⟨p, hp, hadded⟩
    · rcases hv.mem_or_added hl with hl | hadded
      · exact Or.inl hl
      · exact Or.inr ⟨o, List.mem_cons_self, hadded⟩
    · exact Or.inr ⟨p, List.mem_cons_of_mem o hp, hadded⟩

theorem Walk.kept_subset {r : Resolver} {s : Settings} {base : Loadout}
    {os kept dropped : List ParsedOption} (h : Walk r s base os kept dropped) : kept ⊆ os := by
  induction h with
  | start => exact List.Subset.refl []
  | @keep os _ _ o _ _ ih =>
    exact List.append_subset.mpr
      ⟨List.subset_append_of_subset_left [o] ih, List.subset_append_right os [o]⟩
  | @drop _ _ _ o _ _ ih => exact List.subset_append_of_subset_left [o] ih

theorem mem_or_added_of_mem_expand {base : List String} {os : List ParsedOption} {r : Resolver}
    {s : Settings} {l : Loadout} (hl : l ∈ (expand base os r s).loadouts) {a : String}
    (ha : a ∈ l) : a ∈ base ∨ ∃ o ∈ os, a ∈ o.added r := by
  obtain ⟨kept, _, hwalk, hset, _⟩ := exists_walk base os r s
  have hreached : Reaches r kept (Loadout.ofItems base) l := (Set.ext_iff.mp hset l).mp hl
  rcases hreached.mem_or_added ha with hbase | ⟨o, ho, hadded⟩
  · exact Or.inl ((Loadout.ofItems_perm base).mem_iff.mp hbase)
  · exact Or.inr ⟨o, hwalk.kept_subset ho, hadded⟩

/-! ## What a clause covers -/

/-- A name is meant for a model type, as named targeting reads it: equal up to case and a plural
    `s`, or one within the other. -/
def nameSuits (name modelType : String) : Bool :=
  sameModelType (nameKey name.toList) (nameKey modelType.toList)
    || occurs (nameKey name.toList) (nameKey modelType.toList)
    || occurs (nameKey modelType.toList) (nameKey name.toList)

/-- Whether a clause admits the models of a type.  A ratio is stricter with names than the others:
    it takes no name within a name. -/
def Clause.covers (c : Clause) (modelType : String) : Bool :=
  match c.type with
  | .anyModel => true
  | .modelType => c.modelTypes.any fun m => nameSuits m modelType
  | .ratio => c.modelTypes.isEmpty ||
    c.modelTypes.any fun m => sameModelType m.toList modelType.toList

/-- The model type that a targeting names, if it names one. -/
def Targeting.named (t : Targeting) : List String :=
  match t.modelType with
  | some m => if m.isEmpty then [] else [m]
  | none => []

/-- A conditional targeting that names a model, and not this one. -/
def Targeting.NamesOther (t : Targeting) (modelType : String) : Prop :=
  t.type = "conditional" ∧ t.named ≠ [] ∧ ∀ m ∈ t.named, nameSuits m modelType = false

instance (t : Targeting) (modelType : String) : Decidable (t.NamesOther modelType) :=
  inferInstanceAs (Decidable (t.type = "conditional" ∧ t.named ≠ [] ∧
    ∀ m ∈ t.named, nameSuits m modelType = false))

/-- How far a targeting reaches, by the name in it. -/
theorem reaches_eq (t : Targeting) (modelType : String) : t.reaches modelType =
    if namesModel t.type then t.named.any fun m => nameSuits m modelType
    else if isRatio t.type then
      t.named.isEmpty || t.named.any fun m => sameModelType m.toList modelType.toList
    else true := by
  rw [Targeting.reaches, Targeting.named]
  cases t.modelType with
  | none => rfl
  | some m =>
    cases hm : m.isEmpty with
    | true => simp only [hm, if_true, List.any_nil, List.isEmpty_nil, Bool.true_or]
    | false =>
      simp only [hm, Bool.false_eq_true, if_false, List.any_cons, List.any_nil, Bool.or_false,
        List.isEmpty_cons, Bool.false_or, nameSuits]

/-- The clause of a targeting, by the name in it. -/
theorem clauseOf_eq (t : Targeting) : clauseOf t =
    if isRatio t.type then
      ⟨.ratio, t.named, t.ratio,
        some ((nonZero t.count).getD ((nonZero t.maxPerRatio).getD 1))⟩
    else if !t.named.isEmpty && (namesModel t.type || t.type == "conditional") then
      ⟨.modelType, t.named, none, none⟩
    else .any := rfl

/-- What the clause of a targeting covers, by the name in it. -/
theorem covers_clauseOf (t : Targeting) (modelType : String) : (clauseOf t).covers modelType =
    if isRatio t.type then
      t.named.isEmpty || t.named.any fun m => sameModelType m.toList modelType.toList
    else if !t.named.isEmpty && (namesModel t.type || t.type == "conditional") then
      t.named.any fun m => nameSuits m modelType
    else true := by
  rw [clauseOf_eq]
  split
  · rfl
  · split <;> rfl

/-- No targeting type both names its model and sets a ratio, and conditions do neither. -/
theorem namesModel_not_isRatio {type : String} (h : namesModel type = true) :
    isRatio type = false ∧ type ≠ "conditional" := by
  simp only [namesModel, List.contains_cons, List.contains_nil, Bool.or_false, Bool.or_eq_true,
    beq_iff_eq] at h
  rcases h with rfl | rfl | rfl <;> decide

theorem isRatio_ne_conditional {type : String} (h : isRatio type = true) :
    type ≠ "conditional" := by
  rintro rfl
  exact absurd h (by decide)

/-- **Both readings agree on an option**, but for a condition on another model: of the types that a
    targeting reaches its clause covers all others. -/
theorem covers_clauseOf_iff {t : Targeting} {modelType : String}
    (h : t.reaches modelType = true) :
    (clauseOf t).covers modelType = true ↔ ¬ t.NamesOther modelType := by
  rw [reaches_eq] at h
  rw [covers_clauseOf]
  by_cases hratio : isRatio t.type = true
  · have hmodel : ¬ namesModel t.type = true := fun hm =>
      Bool.false_ne_true ((namesModel_not_isRatio hm).1.symm.trans hratio)
    rw [if_neg hmodel, if_pos hratio] at h
    rw [if_pos hratio]
    exact ⟨fun _ hother => isRatio_ne_conditional hratio hother.1, fun _ => h⟩
  · rw [if_neg hratio]
    by_cases hmodel : namesModel t.type = true
    · rw [if_pos hmodel] at h
      refine ⟨fun _ hother => (namesModel_not_isRatio hmodel).2 hother.1, fun _ => ?_⟩
      split
      · exact h
      · rfl
    · by_cases hcond : t.type = "conditional"
      · -- reached whatever the name, covered by the name
        by_cases hnamed : t.named = []
        · simp [Targeting.NamesOther, hnamed]
        · simp [Targeting.NamesOther, hnamed, hcond]
      · simp [Targeting.NamesOther, hmodel, hcond]

/-! ## Merging -/

theorem mem_firstsInto {α : Type} [BEq α] [LawfulBEq α] {a : α} : ∀ {as kept : List α},
    a ∈ firstsInto kept as ↔ a ∈ kept ∨ a ∈ as
  | [], kept => by simp [firstsInto]
  | b :: as, kept => by
    rw [firstsInto, mem_firstsInto, List.mem_cons]
    split
    · rename_i hb
      have hb : b ∈ kept := by simpa using hb
      constructor
      · exact fun h => h.imp id Or.inr
      · rintro (h | rfl | h)
        · exact Or.inl h
        · exact Or.inl hb
        · exact Or.inr h
    · rw [List.mem_append, List.mem_singleton, or_assoc]

namespace Merging

/-- What the clauses merged so far cover: those that name no model by themselves, the others by all
    the names together. -/
def Covers (m : Merging) (modelType : String) : Prop :=
  (∃ k ∈ m.merged, k.type ≠ .modelType ∧ k.covers modelType = true) ∨
    ∃ n ∈ m.named, nameSuits n modelType = true

/-- Names have a clause to stand in. -/
def Placed (m : Merging) : Prop := m.named ≠ [] → ∃ k ∈ m.merged, k.type = .modelType

/-- A clause of named models hands its names over. -/
theorem covers_step_of_modelType {m : Merging} {c : Clause} (htype : c.type = .modelType)
    (modelType : String) :
    (m.step c).Covers modelType ↔ m.Covers modelType ∨ c.covers modelType = true := by
  have hcovers : c.covers modelType = c.modelTypes.any fun n => nameSuits n modelType := by
    rw [Clause.covers, htype]
  have hmerged : ∀ k : Clause, k.type ≠ .modelType →
      (k ∈ (m.step c).merged ↔ k ∈ m.merged) := by
    intro k hk
    have hkc : k ≠ c := by
      rintro rfl
      exact hk htype
    rw [step, if_pos (beq_iff_eq.mpr htype)]
    dsimp only
    split
    · rw [List.mem_append, List.mem_singleton, or_iff_left hkc]
    · rfl
  have hnamed : ∀ n, n ∈ (m.step c).named ↔ n ∈ m.named ∨ n ∈ c.modelTypes := by
    intro n
    rw [step, if_pos (beq_iff_eq.mpr htype), mem_firstsInto]
  rw [hcovers, List.any_eq_true, Covers, Covers]
  constructor
  · rintro (⟨k, hk, hktype, hkc⟩ | ⟨n, hn, hsuits⟩)
    · exact Or.inl (Or.inl ⟨k, (hmerged k hktype).mp hk, hktype, hkc⟩)
    · rcases (hnamed n).mp hn with hn | hn
      · exact Or.inl (Or.inr ⟨n, hn, hsuits⟩)
      · exact Or.inr ⟨n, hn, hsuits⟩
  · rintro ((⟨k, hk, hktype, hkc⟩ | ⟨n, hn, hsuits⟩) | ⟨n, hn, hsuits⟩)
    · exact Or.inl ⟨k, (hmerged k hktype).mpr hk, hktype, hkc⟩
    · exact Or.inr ⟨n, (hnamed n).mpr (Or.inl hn), hsuits⟩
    · exact Or.inr ⟨n, (hnamed n).mpr (Or.inr hn), hsuits⟩

/-- Every other clause stands for itself. -/
theorem covers_step_of_ne_modelType {m : Merging} {c : Clause} (htype : c.type ≠ .modelType)
    (modelType : String) :
    (m.step c).Covers modelType ↔ m.Covers modelType ∨ c.covers modelType = true := by
  have hmerged : ∀ k : Clause, k ∈ (m.step c).merged ↔ k ∈ m.merged ∨ k = c := by
    intro k
    rw [step, if_neg (by simpa using htype)]
    split
    · rename_i hc
      have hc : c ∈ m.merged := by simpa using hc
      refine ⟨Or.inl, ?_⟩
      rintro (hk | rfl)
      · exact hk
      · exact hc
    · rw [List.mem_append, List.mem_singleton]
  have hnamed : (m.step c).named = m.named := by
    rw [step, if_neg (by simpa using htype)]
    split <;> rfl
  rw [Covers, Covers, hnamed]
  constructor
  · rintro (⟨k, hk, hktype, hkc⟩ | hn)
    · rcases (hmerged k).mp hk with hk | rfl
      · exact Or.inl (Or.inl ⟨k, hk, hktype, hkc⟩)
      · exact Or.inr hkc
    · exact Or.inl (Or.inr hn)
  · rintro ((⟨k, hk, hktype, hkc⟩ | hn) | hc)
    · exact Or.inl ⟨k, (hmerged k).mpr (Or.inl hk), hktype, hkc⟩
    · exact Or.inr hn
    · exact Or.inl ⟨c, (hmerged c).mpr (Or.inr rfl), htype, hc⟩

/-- **One clause more** covers what it covers, and no more. -/
theorem covers_step (m : Merging) (c : Clause) (modelType : String) :
    (m.step c).Covers modelType ↔ m.Covers modelType ∨ c.covers modelType = true := by
  by_cases htype : c.type = .modelType
  · exact covers_step_of_modelType htype modelType
  · exact covers_step_of_ne_modelType htype modelType

theorem placed_step {m : Merging} (h : m.Placed) (c : Clause) : (m.step c).Placed := by
  intro hnamed
  rw [step] at hnamed ⊢
  split
  · rename_i htype
    split
    · exact ⟨c, List.mem_append_right _ (List.mem_singleton_self c), beq_iff_eq.mp htype⟩
    · rename_i hsome
      exact h fun hnil => hsome (List.isEmpty_iff.mpr hnil)
  · rename_i htype
    rw [if_neg htype] at hnamed
    split
    · rename_i hc
      rw [if_pos hc] at hnamed
      exact h hnamed
    · rename_i hc
      rw [if_neg hc] at hnamed
      obtain ⟨k, hk, hktype⟩ := h hnamed
      exact ⟨k, List.mem_append_left _ hk, hktype⟩

theorem covers_foldl (modelType : String) : ∀ (cs : List Clause) (m : Merging),
    (cs.foldl step m).Covers modelType ↔
      m.Covers modelType ∨ ∃ c ∈ cs, c.covers modelType = true
  | [], m => by simp
  | c :: cs, m => by
    rw [List.foldl_cons, covers_foldl modelType cs, covers_step, or_assoc, List.exists_mem_cons_iff]

theorem placed_foldl : ∀ (cs : List Clause) {m : Merging}, m.Placed → (cs.foldl step m).Placed
  | [], _, h => h
  | c :: cs, _, h => placed_foldl cs (placed_step h c)

/-- Giving all names to the clauses of named models changes nothing about what is covered. -/
theorem covers_iff_exists {m : Merging} (h : m.Placed) {modelType : String} :
    m.Covers modelType ↔
      ∃ k ∈ m.merged.map fun c =>
        if c.type == .modelType then { c with modelTypes := m.named } else c,
      k.covers modelType = true := by
  simp only [List.mem_map, exists_exists_and_eq_and]
  constructor
  · rintro (⟨k, hk, hktype, hkc⟩ | ⟨n, hn, hsuits⟩)
    · exact ⟨k, hk, by rwa [if_neg (by simpa using hktype)]⟩
    · obtain ⟨k, hk, hktype⟩ := h (List.ne_nil_of_mem hn)
      refine ⟨k, hk, ?_⟩
      rw [if_pos (beq_iff_eq.mpr hktype), Clause.covers, hktype]
      exact List.any_eq_true.mpr ⟨n, hn, hsuits⟩
  · rintro ⟨k, hk, hkc⟩
    by_cases hktype : k.type = .modelType
    · rw [if_pos (beq_iff_eq.mpr hktype), Clause.covers, hktype] at hkc
      exact Or.inr (List.any_eq_true.mp hkc)
    · rw [if_neg (by simpa using hktype)] at hkc
      exact Or.inl ⟨k, hk, hktype, hkc⟩

end Merging

/-- **Merging keeps what is covered**: the merged clauses of an item cover a model type exactly if
    one of its clauses does. -/
theorem covers_mergeClauses {cs : List Clause} {modelType : String} :
    (∃ k ∈ mergeClauses cs, k.covers modelType = true) ↔
      ∃ c ∈ cs, c.covers modelType = true := by
  rw [mergeClauses]
  split
  · rename_i hany
    obtain ⟨c, hc, htype⟩ := List.any_eq_true.mp hany
    have hcovers : c.covers modelType = true := by
      rw [Clause.covers, beq_iff_eq.mp htype]
    exact ⟨fun _ => ⟨c, hc, hcovers⟩, fun _ => ⟨.any, List.mem_singleton_self _, rfl⟩⟩
  · have hplaced : (cs.foldl Merging.step ⟨[], []⟩).Placed :=
      Merging.placed_foldl cs fun hne => absurd rfl hne
    dsimp only
    rw [← Merging.covers_iff_exists hplaced, Merging.covers_foldl]
    simp [Merging.Covers]

/-! ## The table -/

theorem mem_grants {os : List ParsedOption} {r : Resolver} {id : String} {c : Clause} :
    (id, c) ∈ grants os r ↔
      ∃ o ∈ os, o.isActionable = true ∧ id ∈ o.added r ∧ c = clauseOf o.targeting := by
  simp only [grants, List.mem_flatMap, List.mem_filter, List.mem_map, Prod.mk.injEq,
    ParsedOption.added]
  constructor
  · rintro ⟨o, ⟨ho, hactionable⟩, _, hid, rfl, rfl⟩
    exact ⟨o, ho, hactionable, hid, rfl⟩
  · rintro ⟨o, ho, hactionable, hid, rfl⟩
    exact ⟨o, ⟨ho, hactionable⟩, id, hid, rfl, rfl⟩

/-- An item that an actionable option adds has an entry, and the clauses of the entry cover whatever
    the clause of the option covers. -/
theorem exists_eligibility {os : List ParsedOption} {r : Resolver} {o : ParsedOption} (ho : o ∈ os)
    (hactionable : o.isActionable = true) {id : String} (hid : id ∈ o.added r) :
    ∃ e ∈ eligibility os r, e.weaponId = id ∧ ∀ p ∈ os, p.isActionable = true → id ∈ p.added r →
      ∀ modelType, (clauseOf p.targeting).covers modelType = true →
        ∃ c ∈ e.clauses, c.covers modelType = true := by
  have hgrant : (id, clauseOf o.targeting) ∈ grants os r :=
    mem_grants.mpr ⟨o, ho, hactionable, hid, rfl⟩
  refine ⟨⟨id, mergeClauses (((grants os r).filter fun g => g.1 == id).map Prod.snd)⟩, ?_, rfl, ?_⟩
  · refine List.mem_map.mpr ⟨id, mem_firstsInto.mpr (Or.inr ?_), rfl⟩
    exact List.mem_map.mpr ⟨_, hgrant, rfl⟩
  · intro p hp hpactionable hpid modelType hcovers
    have hpgrant : (id, clauseOf p.targeting) ∈ grants os r :=
      mem_grants.mpr ⟨p, hp, hpactionable, hpid, rfl⟩
    refine covers_mergeClauses.mpr ⟨clauseOf p.targeting, ?_, hcovers⟩
    exact List.mem_map.mpr ⟨_, List.mem_filter.mpr ⟨hpgrant, beq_self_eq_true id⟩, rfl⟩

theorem eligibility_generateFrom (d : Datasheet) (os : List ParsedOption) (s : Settings) :
    (generateFrom d os s).eligibility = eligibility os d.resolver := by
  rw [generateFrom]
  split <;> rfl

/-- **Eligibility covers enumeration**, but for conditions on other models.  An item that a model
    type can get beyond its default is in the table, some option that reaches the type adds it, and
    a clause of the item covers the type unless every such option is conditional and names another
    model. -/
theorem eligible_of_mem_legalLoadouts {d : Datasheet} {os : List ParsedOption} {s : Settings}
    {modelType : String} {base : List String} (hbase : baseOf d modelType = some base)
    {l : Loadout} (hl : l ∈ legalLoadouts d os s modelType) {id : String} (hid : id ∈ l)
    (hnew : id ∉ base) :
    ∃ e ∈ (generateFrom d os s).eligibility, e.weaponId = id ∧
      (∃ o ∈ applicable os modelType, id ∈ o.added d.resolver) ∧
      ((∃ c ∈ e.clauses, c.covers modelType = true) ∨
        ∀ o ∈ applicable os modelType, id ∈ o.added d.resolver →
          o.targeting.NamesOther modelType) := by
  rw [eligibility_generateFrom]
  have hfrom : ∃ o ∈ applicable os modelType, id ∈ o.added d.resolver := by
    rw [legalLoadouts, hbase] at hl
    exact (mem_or_added_of_mem_expand (List.mem_filter.mp hl).1 hid).resolve_left hnew
  have happlicable : ∀ o ∈ applicable os modelType,
      o ∈ os ∧ o.isActionable = true ∧ o.targeting.reaches modelType = true := by
    intro o ho
    obtain ⟨ho, h⟩ := List.mem_filter.mp ho
    rw [Bool.and_eq_true, Bool.and_eq_true] at h
    exact ⟨ho, h.1.1, h.2⟩
  obtain ⟨o, ho, hadded⟩ := hfrom
  obtain ⟨hos, hactionable, _⟩ := happlicable o ho
  obtain ⟨e, he, hweapon, hclauses⟩ := exists_eligibility hos hactionable hadded
  refine ⟨e, he, hweapon, ⟨o, ho, hadded⟩, ?_⟩
  by_cases hother : ∀ p ∈ applicable os modelType, id ∈ p.added d.resolver →
      p.targeting.NamesOther modelType
  · exact Or.inr hother
  · push Not at hother
    obtain ⟨p, hp, hpadded, hno⟩ := hother
    obtain ⟨hpos, hpactionable, hreaches⟩ := happlicable p hp
    exact Or.inl (hclauses p hpos hpactionable hpadded modelType
      ((covers_clauseOf_iff hreaches).mpr hno))

/-- The squad's option is for the sergeant, and the plasma pistol that he can get by it is his to
    take. -/
theorem eligible_sergeant :
    baseOf squad "Sergeant" = some ["u:bolter", "u:knife"] ∧
      ["u:knife", "u:plasma-pistol"] ∈ legalLoadouts squad squadOptions .standard "Sergeant" ∧
      ∃ e ∈ (generateFrom squad squadOptions .standard).eligibility,
        e.weaponId = "u:plasma-pistol" ∧ ∃ c ∈ e.clauses, c.covers "Sergeant" = true := by
  have hbase : baseOf squad "Sergeant" = some ["u:bolter", "u:knife"] := by decide +kernel
  have hlegal : ["u:knife", "u:plasma-pistol"]
      ∈ legalLoadouts squad squadOptions .standard "Sergeant" := by
    simp only [legalLoadouts, expand, step_eq]
    decide +kernel
  have hheld : "u:plasma-pistol" ∈ ["u:knife", "u:plasma-pistol"] := by decide
  have hno : ∀ o ∈ squadOptions, ¬ o.targeting.NamesOther "Sergeant" := by decide +kernel
  obtain ⟨e, he, hweapon, ⟨o, ho, hadded⟩, hcovered⟩ :=
    eligible_of_mem_legalLoadouts hbase hlegal hheld (by decide)
  refine ⟨hbase, hlegal, e, he, hweapon, hcovered.resolve_right fun hother => ?_⟩
  exact hno o (List.mem_of_mem_filter ho) (hother o ho hadded)

/-- A unit with an option on the condition that its sergeant carries a bolter. -/
def scouts : Datasheet where
  id := "u"
  name := "Scouts"
  defaultLoadout := "Every model is equipped with: bolter."
  roster := [⟨"1 Sergeant", 1, 1⟩, ⟨"4 Marines", 4, 4⟩]
  weapons := []
  abilities := []
  options := [⟨"u", 1, "", "If this unit's Sergeant is equipped with a bolter, " ++
    "it can be equipped with 1 scope."⟩]

/-- The option of the scouts, as it is read: it is conditional, but asks for no item. -/
def scoutsOptions : List ParsedOption := [{
  line := 1
  rawText := "If this unit's Sergeant is equipped with a bolter, it can be equipped with 1 scope."
  wargearParsed := true
  targeting := { Targeting.plain "if-model-equipped" "conditional" with
    modelType := some "Sergeant", condition := some ⟨none, []⟩ }
  action := ⟨"equip-with-single", .add, [], [⟨[⟨"scope", 1⟩], false⟩], false, none⟩
  constraints := .none }]

theorem parseOptions_scouts : parseOptions scouts.options = .ok scoutsOptions := by
  decide +kernel

/-- The marines are offered a scope, and the table has it for the sergeant alone. -/
theorem not_eligible_marine :
    parseOptions scouts.options = .ok scoutsOptions ∧ "Marine" ∈ modelTypes scouts.roster ∧
      baseOf scouts "Marine" = some ["u:bolter"] ∧
      ["u:bolter", "u:scope"] ∈ legalLoadouts scouts scoutsOptions .standard "Marine" ∧
      ∀ e ∈ (generateFrom scouts scoutsOptions .standard).eligibility,
        e.weaponId = "u:scope" → ∀ c ∈ e.clauses, ¬ c.covers "Marine" = true := by
  refine ⟨parseOptions_scouts, by decide +kernel, by decide +kernel, ?_, ?_⟩
  · simp only [legalLoadouts, expand, step_eq]
    decide +kernel
  · rw [eligibility_generateFrom]
    decide +kernel

end Muster.Wargear
