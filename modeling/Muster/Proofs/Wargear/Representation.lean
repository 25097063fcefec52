/-
  Representation: the form in which lists of loadouts are kept.

  1. **Program.**  `expand` carries a list of loadouts from option to option.  Items are taken out
     and put in, joined lists are rid of repetitions, and an option may be dropped; at the end the
     lists of the model types are regrouped.

  2. **Specification.**  `Tidy` says what the list of a run always is: the sorted base stands first,
     every loadout is sorted, none is listed twice, there are no more than the settings allow, and
     no loadout holds an item more often than the base does, once apart.

  3. **The crux** is one step.  Every loadout is followed by its own variants, so joining keeps the
     first in its place and loses none (`branches_shape`), and a variant differs from its loadout by
     an exchange, which raises no count beyond one (`Exchanged.count_le`).  The run follows by
     induction on the options, the last one first.

  4. Regrouping moves loadouts.  A loadout that goes into the group for any model is common, and one
     that stays with its type is not (`disjoint_of_mem_plainGroups`); a renamed group is alone.
-/
import Mathlib
import Muster.Proofs.Wargear.Legality

namespace Muster.Wargear

/-! ## One loadout and one option -/

/-- An exchange holds an item once, or as often as it was held. -/
theorem Exchanged.count_le {l : Loadout} {removed added : List String} {l' : Loadout}
    (h : Exchanged l removed added l') (a : String) : l'.count a ≤ max 1 (l.count a) := by
  rw [h.count a]
  split_ifs
  · exact le_max_right _ _
  · exact le_max_left _ _
  · exact Nat.zero_le _

theorem Variant.exists_exchanged {r : Resolver} {o : ParsedOption} {l l' : Loadout}
    (h : Variant r o l l') : ∃ removed added, Exchanged l removed added l' := by
  cases h with
  | replace _ _ _ c _ hex => exact ⟨_, _, hex⟩
  | add _ _ x hex => exact ⟨_, _, hex⟩

/-- Branching puts the loadout itself first, and no more behind it than one option may add. -/
theorem branches_shape {r : Resolver} {s : Settings} {o : ParsedOption} {l : Loadout}
    {ms : List Loadout} (h : branches l o r s = .ok ms) :
    ms.head? = some l ∧ ms.length ≤ 1 + s.maxBranching := by
  rcases branches_eq (r := r) (s := s) (o := o) (l := l) with ⟨_, hb⟩ | ⟨_, hb⟩
  · rw [hb] at h
    obtain rfl := Except.ok.inj h
    exact ⟨rfl, Nat.le_add_right 1 _⟩
  · rw [hb] at h
    obtain ⟨vs, _, h⟩ := bind_eq_ok.mp h
    split at h
    · cases h
    · rename_i hfew
      obtain rfl := Except.ok.inj h
      refine ⟨rfl, ?_⟩
      rw [List.length_cons]
      omega

/-! ## All loadouts and one option -/

/-- What every run keeps of its list of loadouts. -/
structure Tidy (s : Settings) (base : List String) (ls : List Loadout) : Prop where
  /-- The sorted base stands first. -/
  first : ls.head? = some (Loadout.ofItems base)
  ordered : ∀ l ∈ ls, Loadout.Ordered l
  nodup : ls.Nodup
  few : ls.length ≤ s.maxLoadouts
  /-- An item that the base does not hold more often is held once at most. -/
  count : ∀ l ∈ ls, ∀ a, l.count a ≤ max 1 (base.count a)

/-- The first of the joined branches is the first of the loadouts. -/
theorem head?_joined {r : Resolver} {s : Settings} {o : ParsedOption} {ls : List Loadout}
    {found : List (List Loadout)}
    (h : List.Forall₂ (fun l ms => branches l o r s = .ok ms) ls found) :
    (firsts found.flatten).head? = ls.head? := by
  cases h with
  | nil => rw [firsts_eq_eraseDups]; rfl
  | @cons l ms ls found hl _ =>
    obtain ⟨ms', rfl⟩ := List.head?_eq_some_iff.mp (branches_shape hl).1
    rw [firsts_eq_eraseDups, List.flatten_cons, List.cons_append, List.eraseDups_cons]
    rfl

/-- Joining the branches multiplies the number of loadouts at most by what one option may make of
    each. -/
theorem length_joined_le {r : Resolver} {s : Settings} {o : ParsedOption} {ls : List Loadout}
    {found : List (List Loadout)}
    (h : List.Forall₂ (fun l ms => branches l o r s = .ok ms) ls found) :
    (firsts found.flatten).length ≤ (1 + s.maxBranching) * ls.length := by
  have hfirsts : (firsts found.flatten).length ≤ found.flatten.length :=
    ((nodup_firsts _).subperm fun _ hm => mem_firsts.mp hm).length_le
  have hjoined : found.flatten.length ≤ (1 + s.maxBranching) * ls.length := by
    clear hfirsts
    induction h with
    | nil => exact Nat.zero_le _
    | @cons l ms ls found hl _ ih =>
      have hms := (branches_shape hl).2
      rw [List.flatten_cons, List.length_append, List.length_cons, Nat.mul_succ]
      omega
  exact hfirsts.trans hjoined

/-- A step in terms of what each loadout is branched to: the joined branches, or the list as it
    was. -/
theorem loadouts_step (r : Resolver) (s : Settings) (e : Expanded) (o : ParsedOption) :
    (Expanded.step r s e o).loadouts = e.loadouts ∨
    ∃ found, List.Forall₂ (fun l ms => branches l o r s = .ok ms) e.loadouts found ∧
      (firsts found.flatten).length ≤ s.maxLoadouts ∧
      (Expanded.step r s e o).loadouts = firsts found.flatten := by
  rw [Expanded.step]
  cases h : widen e.loadouts o r s with
  | error _ => exact Or.inl rfl
  | ok ms =>
    obtain ⟨found, hfound, h⟩ := bind_eq_ok.mp h
    dsimp only at h
    split at h
    · cases h
    · rename_i hfew
      obtain rfl := Except.ok.inj h
      exact Or.inr ⟨found, mapM_eq_ok.mp hfound, Nat.le_of_not_lt hfew, rfl⟩

/-- **One step keeps the form**, whether it takes the option or drops it. -/
theorem Tidy.step {r : Resolver} {s : Settings} {base : List String} {e : Expanded}
    (h : Tidy s base e.loadouts) (o : ParsedOption) :
    Tidy s base (Expanded.step r s e o).loadouts := by
  rcases loadouts_step r s e o with hkept | ⟨found, hfound, hfew, hwidened⟩
  · rw [hkept]
    exact h
  · rw [hwidened]
    -- each loadout of the joined list is one there was, or an exchange of one
    have horigin : ∀ m ∈ firsts found.flatten, m ∈ e.loadouts ∨
        ∃ l ∈ e.loadouts, ∃ removed added, Exchanged l removed added m := by
      intro m hm
      have hm : m ∈ Widened r o {l | l ∈ e.loadouts} := (mem_joined hfound).subset hm
      obtain ⟨l, hl, rfl | hv⟩ := hm
      · exact Or.inl hl
      · exact Or.inr ⟨l, hl, hv.exists_exchanged⟩
    constructor
    case first => rw [head?_joined hfound, h.first]
    case ordered =>
      intro m hm
      rcases horigin m hm with hm | ⟨_, _, _, _, hex⟩
      · exact h.ordered m hm
      · exact hex.ordered
    case nodup => exact nodup_firsts _
    case few => exact hfew
    case count =>
      intro m hm a
      rcases horigin m hm with hm | ⟨l, hl, _, _, hex⟩
      · exact h.count m hm a
      · have hstep := hex.count_le a
        have hbase := h.count l hl a
        omega

/-- **One step loses no loadout and adds to each no more than one option may.** -/
theorem step_grows (r : Resolver) (s : Settings) (e : Expanded) (o : ParsedOption) :
    e.loadouts ⊆ (Expanded.step r s e o).loadouts ∧
    (Expanded.step r s e o).loadouts.length ≤ (1 + s.maxBranching) * e.loadouts.length := by
  rcases loadouts_step r s e o with hkept | ⟨found, hfound, _, hwidened⟩
  · rw [hkept]
    exact ⟨List.Subset.refl _, Nat.le_mul_of_pos_left _ (Nat.add_pos_left Nat.one_pos _)⟩
  · rw [hwidened]
    refine ⟨fun l hl => ?_, length_joined_le hfound⟩
    exact (mem_joined hfound).superset ⟨l, hl, Or.inl rfl⟩

/-! ## The whole run -/

theorem tidy_base (s : Settings) (base : List String) : Tidy s base [Loadout.ofItems base] where
  first := rfl
  ordered := by
    intro l hl
    rw [List.mem_singleton.mp hl]
    exact Loadout.ofItems_ordered base
  nodup := List.nodup_singleton _
  few := Nat.le_of_succ_le s.two_le_maxLoadouts
  count := by
    intro l hl a
    rw [List.mem_singleton.mp hl, (Loadout.ofItems_perm base).count_eq]
    exact le_max_right _ _

/-- **The list of a run is always in form.** -/
theorem tidy_expand (s : Settings) (base : List String) (os : List ParsedOption) (r : Resolver) :
    Tidy s base (expand base os r s).loadouts := by
  induction os using List.reverseRecOn with
  | nil => exact tidy_base s base
  | append_singleton os o ih =>
    rw [expand_append_singleton]
    exact ih.step o

/-! ## The groups of a run -/

/-- A list of loadouts in sorted order, none of them twice. -/
structure Canonical (ls : List Loadout) : Prop where
  ordered : ∀ l ∈ ls, Loadout.Ordered l
  nodup : ls.Nodup

theorem Tidy.canonical {s : Settings} {base : List String} {ls : List Loadout}
    (h : Tidy s base ls) : Canonical ls := ⟨h.ordered, h.nodup⟩

theorem Canonical.filter {ls : List Loadout} (h : Canonical ls) (p : Loadout → Bool) :
    Canonical (ls.filter p) :=
  ⟨fun l hl => h.ordered l (List.mem_of_mem_filter hl), h.nodup.filter p⟩

theorem canonical_legalLoadouts (d : Datasheet) (os : List ParsedOption) (s : Settings)
    (modelType : String) : Canonical (legalLoadouts d os s modelType) := by
  rw [legalLoadouts]
  split
  · exact ⟨fun _ hl => absurd hl List.not_mem_nil, List.nodup_nil⟩
  · exact (tidy_expand s _ _ _).canonical.filter _

/-- The pieces of a grouping are in form if the lists of the types are. -/
theorem canonical_of_mem_plainGroups {ts : List TypeLoadouts} {typeCount : Nat}
    (h : ∀ t ∈ ts, Canonical t.loadouts) {g : Group} (hg : g ∈ plainGroups ts typeCount) :
    Canonical g.items := by
  rcases mem_plainGroups.mp hg with ⟨_, rfl⟩ | hg
  · refine ⟨fun l hl => ?_, nodup_firsts _⟩
    obtain ⟨_, t, ht, hl⟩ := mem_common.mp hl
    exact (h t ht).ordered l hl
  · obtain ⟨t, ht, _, rfl⟩ := mem_typeGroups.mp hg
    exact (h t ht).filter _

/-- Renaming changes no items. -/
theorem canonical_of_mem_group {ts : List TypeLoadouts} {typeCount : Nat}
    (h : ∀ t ∈ ts, Canonical t.loadouts) {g : Group} (hg : g ∈ group ts typeCount) :
    Canonical g.items := by
  rw [group_eq] at hg
  rcases mem_renameLone hg with hg | ⟨k, hk, hitems⟩
  · exact canonical_of_mem_plainGroups h hg
  · rw [hitems]
    exact canonical_of_mem_plainGroups h (hk ▸ List.mem_singleton_self k)

/-- **What is common stays with no type**, where either all types or none are called by the name
    that stands for any model. -/
theorem disjoint_of_mem_plainGroups {ts : List TypeLoadouts} {typeCount : Nat}
    (hnamed : ∀ t ∈ ts, t.modelType = anyModel → ∀ u ∈ ts, u.modelType = anyModel) {g k : Group}
    (hg : g ∈ plainGroups ts typeCount) (hk : k ∈ plainGroups ts typeCount)
    (hany : g.modelType = anyModel) (hother : k.modelType ≠ anyModel) :
    g.items.Disjoint k.items := by
  rcases mem_plainGroups.mp hk with ⟨_, rfl⟩ | hk
  · exact absurd rfl hother
  · obtain ⟨u, hu, _, rfl⟩ := mem_typeGroups.mp hk
    rcases mem_plainGroups.mp hg with ⟨_, rfl⟩ | hg
    · intro l hcommon hown
      exact (mem_ownLoadouts.mp hown).2 (mem_common.mp hcommon).1
    · obtain ⟨t, ht, _, rfl⟩ := mem_typeGroups.mp hg
      exact absurd (hnamed t ht hany u hu) hother

/-- Renaming leaves the groups as they are, or there is one alone. -/
theorem renameLone_eq (gs : List Group) : renameLone gs = gs ∨ ∃ g, renameLone gs = [g] := by
  rcases gs with _ | ⟨g, _ | ⟨g', gs⟩⟩
  · exact Or.inl rfl
  · rw [renameLone]
    split
    · exact Or.inr ⟨_, rfl⟩
    · exact Or.inl rfl
  · exact Or.inl rfl

/-- The same after a lone group is renamed: there is then no other. -/
theorem disjoint_of_mem_group {ts : List TypeLoadouts} {typeCount : Nat}
    (hnamed : ∀ t ∈ ts, t.modelType = anyModel → ∀ u ∈ ts, u.modelType = anyModel) {g k : Group}
    (hg : g ∈ group ts typeCount) (hk : k ∈ group ts typeCount) (hany : g.modelType = anyModel)
    (hother : k.modelType ≠ anyModel) : g.items.Disjoint k.items := by
  rw [group_eq] at hg hk
  rcases renameLone_eq (plainGroups ts typeCount) with hsame | ⟨lone, hlone⟩
  · rw [hsame] at hg hk
    exact disjoint_of_mem_plainGroups hnamed hg hk hany hother
  · rw [hlone] at hg hk
    rw [List.mem_singleton.mp hg, ← List.mem_singleton.mp hk] at hany
    exact absurd hany hother

/-- Where the roster calls no model type by the name that stands for any model, no loadout is both
    in the group for any model and in the group of a type. -/
theorem disjoint_of_mem_generated {d : Datasheet} {os : List ParsedOption} {s : Settings}
    (hnamed : d.roster ≠ [] → anyModel ∉ modelTypes d.roster) {g k : Group}
    (hg : g ∈ group (typeLoadouts d os s) (modelTypes d.roster).length)
    (hk : k ∈ group (typeLoadouts d os s) (modelTypes d.roster).length)
    (hany : g.modelType = anyModel) (hother : k.modelType ≠ anyModel) :
    g.items.Disjoint k.items := by
  refine disjoint_of_mem_group (fun t ht hname u hu => ?_) hg hk hany hother
  have hlisted := (mem_typeLoadouts.mp ht).1
  by_cases hroster : d.roster = []
  · -- without a roster the name that stands for any model is the only one
    have hlisted' := (mem_typeLoadouts.mp hu).1
    rw [hroster] at hlisted'
    exact List.mem_singleton.mp hlisted'
  · rw [hname] at hlisted
    exact absurd hlisted (hnamed hroster)

/-- **The form of loadout lists.**  After any options the list of a run has the sorted base first,
    holds sorted loadouts and each once, keeps within the bound, and no loadout holds an item more
    often than the base, once apart.  A further option loses no loadout and makes of each no more
    than one option may.  So every generated group holds sorted loadouts and each once, and the
    group for any model shares none with the group of a model type. -/
theorem loadouts_in_form (s : Settings) :
    (∀ (base : List String) (os : List ParsedOption) (r : Resolver),
      Tidy s base (expand base os r s).loadouts ∧
      ∀ o, (expand base os r s).loadouts ⊆ (expand base (os ++ [o]) r s).loadouts ∧
        (expand base (os ++ [o]) r s).loadouts.length
          ≤ (1 + s.maxBranching) * (expand base os r s).loadouts.length) ∧
    ∀ (d : Datasheet) (os : List ParsedOption),
      (∀ g ∈ (generateFrom d os s).groups, Canonical g.items) ∧
      ∃ gs, (generateFrom d os s).groups = gs ++ unitGroups d os s ∧
        ((d.roster ≠ [] → anyModel ∉ modelTypes d.roster) →
          ∀ g ∈ gs, g.modelType = anyModel → ∀ k ∈ gs, k.modelType ≠ anyModel →
            g.items.Disjoint k.items) := by
  refine ⟨fun base os r => ⟨tidy_expand s base os r, fun o => ?_⟩, fun d os => ?_⟩
  · rw [expand_append_singleton]
    exact step_grows r s (expand base os r s) o
  · obtain ⟨gs, hgroups, hgs⟩ := exists_groups_generateFrom d os s
    refine ⟨fun g hg => ?_, gs, hgroups, fun hnamed g hg hany k hk hother => ?_⟩
    · rw [hgroups] at hg
      rcases List.mem_append.mp hg with hg | hg
      · refine canonical_of_mem_group (fun t ht => ?_) (hgs g hg)
        rw [(mem_typeLoadouts.mp ht).2.2]
        exact canonical_legalLoadouts d os s t.modelType
      · rw [unitGroups] at hg
        split at hg
        · exact absurd hg List.not_mem_nil
        · rw [List.mem_singleton.mp hg]
          exact (tidy_expand s _ _ _).canonical
    · exact disjoint_of_mem_generated hnamed (hgs g hg) (hgs k hk) hany hother

end Muster.Wargear
