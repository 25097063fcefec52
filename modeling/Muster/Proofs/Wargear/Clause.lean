/-
  Clauses: what merging makes of the clauses of an item.

  1. **Program.**  One pass over the clauses of an item keeps those merged so far and the model types
     named so far.  The FIRST clause of named models takes its place in the list and stands for all
     of them; only when the pass is over is it given the names.  Other clauses are kept once.

  2. **Specification**, without a pass.  `MergedClauses cs ms` says which clauses `ms` holds, each
     once: the one for any model alone, if `cs` has it; else the ratios of `cs` and, if `cs` names
     models, one clause of all the names in the order of first mention (`namedIn`).

  3. **The crux** (`map_merged_step`) looks at the pass from its end.  Give the clauses of named
     models all the names at once, those of the list so far and the one that comes in: then they are
     all the same clause, and a step only keeps first occurrences.  So merging is "give all the names
     to each, and keep first occurrences" (`mergeClauses_eq`).  This needs that a clause of named
     models does name one, or a second clause would take a place of its own; the clauses that
     targetings grant do (`plain_clauseOf`).

  4. From that form it can be read off that merged clauses are merged already, and that clauses in
     another order are merged alike, up to the order of clauses and of names (`alike_mergeClauses`).

  5. An option that adds an item several times grants its clause as often.  First occurrences do not
     tell, so an entry may be read as merged from one clause for each option that adds its item
     (`mergeClauses_mentions`).
-/
import Mathlib
import Muster.Proofs.FirstOccurrence
import Muster.Proofs.Wargear.Eligibility

namespace Muster.Wargear

/-! ## Plain clauses -/

/-- The clause that admits the models of some types. -/
def Clause.ofModels (names : List String) : Clause := ⟨.modelType, names, none, none⟩

/-- The model types that a clause of named models names. -/
def Clause.names (c : Clause) : List String := if c.type = .modelType then c.modelTypes else []

/-- A clause says nothing that its type has no use for, and if it is one of named models it names
    some. -/
structure Clause.Plain (c : Clause) : Prop where
  any : c.type = .anyModel → c = .any
  models : c.type = .modelType → c = .ofModels c.modelTypes
  named : c.type = .modelType → c.modelTypes ≠ []

theorem Clause.plain_ofModels {names : List String} (h : names ≠ []) :
    (Clause.ofModels names).Plain :=
  ⟨nofun, fun _ => rfl, fun _ => h⟩

/-- **The clause of a targeting is plain.** -/
theorem plain_clauseOf (t : Targeting) : (clauseOf t).Plain := by
  rw [clauseOf_eq]
  split
  · exact ⟨nofun, nofun, nofun⟩
  · split
    · rename_i hnamed
      rw [Bool.and_eq_true, Bool.not_eq_true', List.isEmpty_eq_false_iff] at hnamed
      exact Clause.plain_ofModels hnamed.1
    · exact ⟨fun _ => rfl, nofun, nofun⟩

/-! ## Merging in closed form -/

theorem firstsInto_append {α : Type} [BEq α] (kept as bs : List α) :
    firstsInto kept (as ++ bs) = firstsInto (firstsInto kept as) bs := by
  induction as generalizing kept with
  | nil => rfl
  | cons a as ih => rw [List.cons_append, firstsInto, firstsInto, ih]

/-- The items of a list that differ from all before them are its first occurrences. -/
theorem firstsInto_nil {α : Type} [BEq α] [LawfulBEq α] (as : List α) :
    firstsInto [] as = as.eraseDups := by
  induction as using List.reverseRecOn with
  | nil => rfl
  | append_singleton as a ih =>
    have hseen : as.eraseDups.contains a = true ↔ a ∈ as := by
      rw [List.contains_iff_mem, List.mem_eraseDups]
    rw [firstsInto_append, ih]
    show (if as.eraseDups.contains a then as.eraseDups else as.eraseDups ++ [a]) = _
    by_cases ha : a ∈ as
    · rw [if_pos (hseen.mpr ha), eraseDups_concat_of_mem ha]
    · rw [if_neg (mt hseen.mp ha), eraseDups_concat_of_not_mem ha]

theorem firstsInto_eq_nil_iff {α : Type} [BEq α] [LawfulBEq α] {kept as : List α} :
    firstsInto kept as = [] ↔ kept = [] ∧ as = [] := by
  simp only [List.eq_nil_iff_forall_not_mem, mem_firstsInto, not_or, forall_and]

/-- A clause with all the names, if it is one of named models. -/
def Clause.join (names : List String) (c : Clause) : Clause :=
  if c.type == .modelType then { c with modelTypes := names } else c

theorem Clause.join_of_ne {names : List String} {c : Clause} (h : c.type ≠ .modelType) :
    c.join names = c := by
  rw [Clause.join, if_neg (by simpa using h)]

theorem Clause.Plain.join {names : List String} {c : Clause} (h : c.Plain)
    (htype : c.type = .modelType) : c.join names = .ofModels names := by
  rw [Clause.join, if_pos (by simpa using htype), h.models htype]
  rfl

theorem Clause.type_join (names : List String) (c : Clause) : (c.join names).type = c.type := by
  rw [Clause.join]
  split <;> rfl

namespace Merging

/-- What holds of the clauses merged so far: they are plain, and one of them is of named models
    exactly if there are names. -/
structure Sound (m : Merging) : Prop where
  plain : ∀ k ∈ m.merged, k.Plain
  placed : m.named ≠ [] ↔ ∃ k ∈ m.merged, k.type = .modelType

theorem sound_step {m : Merging} (h : m.Sound) {c : Clause} (hc : c.Plain) : (m.step c).Sound := by
  have hconcat : ∀ k ∈ m.merged ++ [c], k.Plain := by
    intro k hk
    rcases List.mem_append.mp hk with hk | hk
    · exact h.plain k hk
    · rw [List.mem_singleton.mp hk]
      exact hc
  rw [step]
  split
  · rename_i htype
    have htype : c.type = .modelType := by simpa using htype
    have hnamed : firstsInto m.named c.modelTypes ≠ [] := by
      intro hnil
      exact hc.named htype (firstsInto_eq_nil_iff.mp hnil).2
    split
    · -- the first clause of named models
      refine ⟨hconcat, iff_of_true hnamed ⟨c, ?_, htype⟩⟩
      exact List.mem_append_right m.merged (List.mem_singleton_self c)
    · rename_i hsome
      have hsome : m.named ≠ [] := by simpa using hsome
      exact ⟨h.plain, iff_of_true hnamed (h.placed.mp hsome)⟩
  · rename_i htype
    have htype : c.type ≠ .modelType := by simpa using htype
    split
    · exact h
    · refine ⟨hconcat, h.placed.trans ⟨?_, ?_⟩⟩
      · rintro ⟨k, hk, hktype⟩
        exact ⟨k, List.mem_append_left [c] hk, hktype⟩
      · rintro ⟨k, hk, hktype⟩
        rcases List.mem_append.mp hk with hk | hk
        · exact ⟨k, hk, hktype⟩
        · rw [List.mem_singleton.mp hk] at hktype
          exact absurd hktype htype

/-- A clause comes in anew exactly if, all names given, it is not there yet. -/
theorem join_mem_iff {m : Merging} (h : m.Sound) {c : Clause} (hc : c.Plain)
    (names : List String) :
    c.join names ∈ m.merged.map (Clause.join names) ↔
      if c.type = .modelType then m.named ≠ [] else c ∈ m.merged := by
  rw [List.mem_map]
  split
  · rename_i htype
    rw [h.placed, hc.join htype]
    constructor
    · rintro ⟨k, hk, hjoin⟩
      refine ⟨k, hk, ?_⟩
      rw [← Clause.type_join names k, hjoin]
      rfl
    · rintro ⟨k, hk, hktype⟩
      exact ⟨k, hk, (h.plain k hk).join hktype⟩
  · rename_i htype
    rw [Clause.join_of_ne htype]
    constructor
    · rintro ⟨k, hk, hjoin⟩
      -- what is joined keeps its type, so `k` was not joined at all
      have hktype : k.type ≠ .modelType := by
        rw [← Clause.type_join names k, hjoin]
        exact htype
      rw [Clause.join_of_ne hktype] at hjoin
      exact hjoin ▸ hk
    · intro hk
      exact ⟨c, hk, Clause.join_of_ne htype⟩

/-- **One step, seen with all names given**, keeps first occurrences. -/
theorem map_merged_step {m : Merging} (h : m.Sound) {c : Clause} (hc : c.Plain)
    (names : List String) :
    (m.step c).merged.map (Clause.join names)
      = firstsInto (m.merged.map (Clause.join names)) [c.join names] := by
  have hmem := join_mem_iff h hc names
  rw [firstsInto, firstsInto, step]
  by_cases htype : c.type = .modelType
  · rw [if_pos htype] at hmem
    rw [if_pos (by simpa using htype)]
    dsimp only
    by_cases hnamed : m.named = []
    · have hnew : ¬ c.join names ∈ m.merged.map (Clause.join names) := by
        rw [hmem]
        exact not_not.mpr hnamed
      rw [if_pos (by simpa using hnamed), if_neg (by simpa using hnew), List.map_append,
        List.map_singleton]
    · rw [if_neg (by simpa using hnamed), if_pos (by simpa using hmem.mpr hnamed)]
  · rw [if_neg htype] at hmem
    rw [if_neg (by simpa using htype)]
    by_cases hseen : c ∈ m.merged
    · rw [if_pos (by simpa using hseen), if_pos (by simpa using hmem.mpr hseen)]
    · have hnew : ¬ c.join names ∈ m.merged.map (Clause.join names) := mt hmem.mp hseen
      rw [if_neg (by simpa using hseen), if_neg (by simpa using hnew), List.map_append,
        List.map_singleton]

/-- **The whole pass**, seen in the same way. -/
theorem map_merged_foldl (names : List String) : ∀ (cs : List Clause) {m : Merging}, m.Sound →
    (∀ c ∈ cs, c.Plain) →
    (cs.foldl step m).merged.map (Clause.join names)
      = firstsInto (m.merged.map (Clause.join names)) (cs.map (Clause.join names))
  | [], m, _, _ => rfl
  | c :: cs, m, h, hplain => by
    obtain ⟨hc, hcs⟩ := List.forall_mem_cons.mp hplain
    have hrest : c.join names :: cs.map (Clause.join names)
        = [c.join names] ++ cs.map (Clause.join names) := rfl
    rw [List.foldl_cons, map_merged_foldl names cs (sound_step h hc) hcs, map_merged_step h hc,
      List.map_cons, hrest, firstsInto_append]

theorem named_step (m : Merging) (c : Clause) :
    (m.step c).named = firstsInto m.named c.names := by
  rw [step, Clause.names]
  by_cases htype : c.type = .modelType
  · rw [if_pos (by simpa using htype), if_pos htype]
  · rw [if_neg (by simpa using htype), if_neg htype]
    split <;> rfl

theorem named_foldl : ∀ (cs : List Clause) (m : Merging),
    (cs.foldl step m).named = firstsInto m.named (cs.flatMap Clause.names)
  | [], m => rfl
  | c :: cs, m => by
    rw [List.foldl_cons, named_foldl cs, named_step, List.flatMap_cons, firstsInto_append]

end Merging

/-- The model types that clauses name, each once, in the order of first mention. -/
def namedIn (cs : List Clause) : List String := (cs.flatMap Clause.names).eraseDups

theorem namedIn_ne_nil {cs : List Clause} (hplain : ∀ c ∈ cs, c.Plain)
    (hsome : ∃ c ∈ cs, c.type = .modelType) : namedIn cs ≠ [] := by
  obtain ⟨c, hc, htype⟩ := hsome
  obtain ⟨name, hname⟩ := List.exists_mem_of_ne_nil _ ((hplain c hc).named htype)
  have hmem : name ∈ cs.flatMap Clause.names := by
    refine List.mem_flatMap.mpr ⟨c, hc, ?_⟩
    rwa [Clause.names, if_pos htype]
  exact List.ne_nil_of_mem (List.mem_eraseDups.mpr hmem)

/-- A clause for any model swallows all others. -/
theorem mergeClauses_of_any {cs : List Clause} (h : ∃ c ∈ cs, c.type = .anyModel) :
    mergeClauses cs = [.any] := by
  obtain ⟨c, hc, htype⟩ := h
  rw [mergeClauses, if_pos]
  exact List.any_eq_true.mpr ⟨c, hc, by simpa using htype⟩

/-- **Merging in closed form**: give all the names to each clause of named models, and keep first
    occurrences. -/
theorem mergeClauses_eq {cs : List Clause} (hplain : ∀ c ∈ cs, c.Plain)
    (hno : ∀ c ∈ cs, c.type ≠ .anyModel) :
    mergeClauses cs = (cs.map (Clause.join (namedIn cs))).eraseDups := by
  have hnone : ¬ (cs.any fun c => c.type == .anyModel) = true := by
    rw [List.any_eq_true]
    rintro ⟨c, hc, htype⟩
    exact hno c hc (by simpa using htype)
  have hstart : (⟨[], []⟩ : Merging).Sound := by
    refine ⟨fun k hk => absurd hk List.not_mem_nil, ?_⟩
    simp
  have hnamed : (cs.foldl Merging.step ⟨[], []⟩).named = namedIn cs := by
    rw [Merging.named_foldl, firstsInto_nil, namedIn]
  rw [mergeClauses, if_neg hnone]
  show (cs.foldl Merging.step ⟨[], []⟩).merged.map (Clause.join _) = _
  rw [Merging.map_merged_foldl _ cs hstart hplain, hnamed, List.map_nil, firstsInto_nil]

/-! ## Which clauses come of it -/

/-- What merging has to make of the clauses `cs` of an item. -/
structure MergedClauses (cs ms : List Clause) : Prop where
  /-- A clause for any model stands alone. -/
  any : (∃ c ∈ cs, c.type = .anyModel) → ms = [.any]
  /-- No clause is there twice. -/
  nodup : ms.Nodup
  /-- Where no clause is for any model, there are the ratios and, if models are named, the clause
      of all names. -/
  mem_iff : (∀ c ∈ cs, c.type ≠ .anyModel) → ∀ m, m ∈ ms ↔
    (m.type = .ratio ∧ m ∈ cs) ∨
      ((∃ c ∈ cs, c.type = .modelType) ∧ m = .ofModels (namedIn cs))

theorem mergedClauses_mergeClauses {cs : List Clause} (hplain : ∀ c ∈ cs, c.Plain) :
    MergedClauses cs (mergeClauses cs) := by
  refine ⟨mergeClauses_of_any, ?_, fun hno m => ?_⟩
  · by_cases hany : ∃ c ∈ cs, c.type = .anyModel
    · rw [mergeClauses_of_any hany]
      exact List.nodup_singleton _
    · push Not at hany
      rw [mergeClauses_eq hplain hany]
      exact nodup_eraseDups _
  · rw [mergeClauses_eq hplain hno, List.mem_eraseDups, List.mem_map]
    constructor
    · rintro ⟨c, hc, rfl⟩
      cases htype : c.type with
      | anyModel => exact absurd htype (hno c hc)
      | modelType => exact Or.inr ⟨⟨c, hc, htype⟩, (hplain c hc).join htype⟩
      | ratio =>
        rw [Clause.join_of_ne (by rw [htype]; decide)]
        exact Or.inl ⟨htype, hc⟩
    · rintro (⟨htype, hm⟩ | ⟨⟨c, hc, htype⟩, rfl⟩)
      · exact ⟨m, hm, Clause.join_of_ne (by rw [htype]; decide)⟩
      · exact ⟨c, hc, (hplain c hc).join htype⟩

/-- **Merged clauses are merged already.** -/
theorem mergeClauses_mergeClauses {cs : List Clause} (hplain : ∀ c ∈ cs, c.Plain) :
    mergeClauses (mergeClauses cs) = mergeClauses cs := by
  by_cases hany : ∃ c ∈ cs, c.type = .anyModel
  · rw [mergeClauses_of_any hany]
    rfl
  · push Not at hany
    have hmerged := mergedClauses_mergeClauses hplain
    have hmem := hmerged.mem_iff hany
    generalize mergeClauses cs = ms at hmerged hmem ⊢
    -- merged clauses are plain, none is for any model, and those of named models are all the same
    have hms : ∀ m ∈ ms, m.Plain ∧ m.type ≠ .anyModel ∧
        (m.type = .modelType → m = .ofModels (namedIn cs)) := by
      intro m hm
      rcases (hmem m).mp hm with ⟨htype, hcs⟩ | ⟨⟨c, hc, htype⟩, rfl⟩
      · refine ⟨hplain m hcs, by rw [htype]; decide, fun hmodel => ?_⟩
        rw [htype] at hmodel
        exact absurd hmodel (by decide)
      · exact ⟨Clause.plain_ofModels (namedIn_ne_nil hplain ⟨c, hc, htype⟩), nofun, fun _ => rfl⟩
    have hjoin : ∀ m ∈ ms, m.join (namedIn ms) = m := by
      intro m hm
      by_cases htype : m.type = .modelType
      · -- the names of this one clause are all the names that there are
        have hnames : namedIn ms = namedIn cs := by
          have hone : (ms.flatMap Clause.names).eraseDups = (namedIn cs).eraseDups := by
            refine eraseDups_flatMap_of_mentions ⟨m, hm, ?_⟩ fun k hk => ?_
            · rw [(hms m hm).2.2 htype]
              rfl
            · by_cases hktype : k.type = .modelType
              · rw [(hms k hk).2.2 hktype]
                exact Or.inr rfl
              · exact Or.inl (if_neg hktype)
          rw [namedIn, hone, namedIn, eraseDups_eraseDups]
        rw [(hms m hm).1.join htype, hnames, ← (hms m hm).2.2 htype]
      · exact Clause.join_of_ne htype
    rw [mergeClauses_eq (fun m hm => (hms m hm).1) fun m hm => (hms m hm).2.1,
      List.map_congr_left hjoin, List.map_id', eraseDups_of_nodup hmerged.nodup]

/-! ## The clauses that options grant to an item -/

/-- The clauses of the options that add an item, one for each such option, in order. -/
def grantedTo (os : List ParsedOption) (r : Resolver) (id : String) : List Clause :=
  (os.filter fun o => o.isActionable && (o.added r).contains id).map fun o => clauseOf o.targeting

theorem mem_grantedTo {os : List ParsedOption} {r : Resolver} {id : String} {c : Clause} :
    c ∈ grantedTo os r id ↔
      ∃ o ∈ os, o.isActionable = true ∧ id ∈ o.added r ∧ c = clauseOf o.targeting := by
  simp only [grantedTo, List.mem_map, List.mem_filter, Bool.and_eq_true, List.contains_iff_mem,
    and_assoc, @eq_comm _ c]

theorem plain_of_mem_grantedTo {os : List ParsedOption} {r : Resolver} {id : String} {c : Clause}
    (h : c ∈ grantedTo os r id) : c.Plain := by
  obtain ⟨o, _, _, _, rfl⟩ := mem_grantedTo.mp h
  exact plain_clauseOf o.targeting

/-- The ids that are granted a clause are those that the actionable options add. -/
theorem map_fst_grants (os : List ParsedOption) (r : Resolver) :
    (grants os r).map Prod.fst
      = (os.filter ParsedOption.isActionable).flatMap fun o => o.added r := by
  rw [grants, List.map_flatMap]
  refine List.flatMap_congr fun o _ => ?_
  rw [List.map_map]
  exact List.map_id _

/-- The clauses granted to an item as the program collects them: an option that adds the item more
    than once is there more than once. -/
def mentions (os : List ParsedOption) (r : Resolver) (id : String) : List Clause :=
  ((grants os r).filter fun g => g.1 == id).map Prod.snd

theorem mem_mentions {os : List ParsedOption} {r : Resolver} {id : String} {c : Clause} :
    c ∈ mentions os r id ↔ c ∈ grantedTo os r id := by
  rw [mem_grantedTo]
  constructor
  · intro hc
    obtain ⟨⟨id', c⟩, hg, rfl⟩ := List.mem_map.mp hc
    obtain ⟨hgrant, hid⟩ := List.mem_filter.mp hg
    obtain rfl : id' = id := by simpa using hid
    exact mem_grants.mp hgrant
  · intro hc
    have hgrant : (id, c) ∈ grants os r := mem_grants.mpr hc
    exact List.mem_map.mpr ⟨(id, c), List.mem_filter.mpr ⟨hgrant, beq_self_eq_true id⟩, rfl⟩

theorem mentions_cons (o : ParsedOption) (os : List ParsedOption) (r : Resolver) (id : String) :
    mentions (o :: os) r id = mentions [o] r id ++ mentions os r id := by
  have hsplit : grants (o :: os) r = grants [o] r ++ grants os r := by
    rw [grants, grants, grants, ← List.flatMap_append, ← List.filter_append, List.singleton_append]
  rw [mentions, mentions, mentions, hsplit, List.filter_append, List.map_append]

theorem grantedTo_cons (o : ParsedOption) (os : List ParsedOption) (r : Resolver) (id : String) :
    grantedTo (o :: os) r id = grantedTo [o] r id ++ grantedTo os r id := by
  rw [grantedTo, grantedTo, grantedTo, ← List.map_append, ← List.filter_append,
    List.singleton_append]

/-- **How often an option adds an item makes no difference** to what is read off the first
    occurrences in its clauses. -/
theorem eraseDups_flatMap_mentions {α : Type} [BEq α] [LawfulBEq α] (r : Resolver) (id : String)
    (f : Clause → List α) : ∀ os : List ParsedOption,
    ((mentions os r id).flatMap f).eraseDups = ((grantedTo os r id).flatMap f).eraseDups
  | [] => rfl
  | o :: os => by
    -- of one option there is its clause, once or more often, or none at all
    have hone : ((mentions [o] r id).flatMap f).eraseDups
        = ((grantedTo [o] r id).flatMap f).eraseDups := by
      have hall : ∀ c ∈ mentions [o] r id, c = clauseOf o.targeting := by
        intro c hc
        obtain ⟨p, hp, _, _, rfl⟩ := mem_grantedTo.mp (mem_mentions.mp hc)
        rw [List.mem_singleton.mp hp]
      by_cases hadds : (o.isActionable && (o.added r).contains id) = true
      · have hgranted : grantedTo [o] r id = [clauseOf o.targeting] := by
          simp only [grantedTo, List.filter_cons, hadds, if_true, List.filter_nil, List.map_cons,
            List.map_nil]
        have hmem : clauseOf o.targeting ∈ mentions [o] r id := by
          rw [mem_mentions, hgranted]
          exact List.mem_singleton_self _
        rw [hgranted, List.flatMap_singleton]
        refine eraseDups_flatMap_of_mentions ⟨_, hmem, rfl⟩ fun c hc => ?_
        rw [hall c hc]
        exact Or.inr rfl
      · have hgranted : grantedTo [o] r id = [] := by
          simp only [grantedTo, List.filter_cons, hadds, Bool.false_eq_true, if_false,
            List.filter_nil, List.map_nil]
        have hnone : mentions [o] r id = [] := by
          refine List.eq_nil_iff_forall_not_mem.mpr fun c hc => ?_
          rw [mem_mentions, hgranted] at hc
          exact List.not_mem_nil hc
        rw [hgranted, hnone]
    rw [mentions_cons, grantedTo_cons, List.flatMap_append, List.flatMap_append]
    exact eraseDups_append_congr hone (eraseDups_flatMap_mentions r id f os)

/-- So the clauses of an item are merged from one for each option that adds it. -/
theorem mergeClauses_mentions (os : List ParsedOption) (r : Resolver) (id : String) :
    mergeClauses (mentions os r id) = mergeClauses (grantedTo os r id) := by
  have hmem : ∀ c, c ∈ mentions os r id ↔ c ∈ grantedTo os r id := fun _ => mem_mentions
  by_cases hany : ∃ c ∈ grantedTo os r id, c.type = .anyModel
  · obtain ⟨c, hc, htype⟩ := hany
    rw [mergeClauses_of_any ⟨c, hc, htype⟩, mergeClauses_of_any ⟨c, (hmem c).mpr hc, htype⟩]
  · push Not at hany
    have hnames : namedIn (mentions os r id) = namedIn (grantedTo os r id) :=
      eraseDups_flatMap_mentions r id Clause.names os
    rw [mergeClauses_eq (fun _ => plain_of_mem_grantedTo) hany,
      mergeClauses_eq (fun c hc => plain_of_mem_grantedTo ((hmem c).mp hc))
        fun c hc => hany c ((hmem c).mp hc), hnames, List.map_eq_flatMap, List.map_eq_flatMap]
    exact eraseDups_flatMap_mentions r id _ os

theorem eligibility_eq (os : List ParsedOption) (r : Resolver) : eligibility os r =
    (((os.filter ParsedOption.isActionable).flatMap fun o => o.added r).eraseDups).map fun id =>
      ⟨id, mergeClauses (grantedTo os r id)⟩ := by
  show (firstsInto [] ((grants os r).map Prod.fst)).map _ = _
  rw [firstsInto_nil, map_fst_grants]
  refine List.map_congr_left fun id _ => ?_
  show Eligibility.mk id (mergeClauses (mentions os r id)) = _
  rw [mergeClauses_mentions]

/-! ## Options in another order -/

/-- Clauses that are the same but for the order of names. -/
structure Clause.Alike (c d : Clause) : Prop where
  type : c.type = d.type
  names : c.modelTypes.Perm d.modelTypes
  ratio : c.ratio = d.ratio
  count : c.count = d.count

theorem Clause.Alike.refl (c : Clause) : c.Alike c := ⟨rfl, List.Perm.refl _, rfl, rfl⟩

/-- Entries that are the same but for the order of clauses and of names in a clause. -/
structure Eligibility.Alike (e f : Eligibility) : Prop where
  weaponId : e.weaponId = f.weaponId
  clauses : Multiset.Rel Clause.Alike e.clauses f.clauses

/-- The clause of all names, if there are any. -/
def jointClause (cs : List Clause) : List Clause :=
  if cs.any fun c => c.type == .modelType then [.ofModels (namedIn cs)] else []

theorem mem_jointClause {cs : List Clause} {c : Clause} :
    c ∈ jointClause cs ↔ (∃ k ∈ cs, k.type = .modelType) ∧ c = .ofModels (namedIn cs) := by
  have hany : (cs.any fun k => k.type == .modelType) = true ↔ ∃ k ∈ cs, k.type = .modelType := by
    simp only [List.any_eq_true, beq_iff_eq]
  unfold jointClause
  split
  · rename_i hsome
    rw [List.mem_singleton]
    exact ⟨fun hc => ⟨hany.mp hsome, hc⟩, And.right⟩
  · rename_i hnone
    exact ⟨fun hc => absurd hc List.not_mem_nil, fun hc => absurd (hany.mpr hc.1) hnone⟩

theorem nodup_jointClause (cs : List Clause) : (jointClause cs).Nodup := by
  unfold jointClause
  split
  · exact List.nodup_singleton _
  · exact List.nodup_nil

/-- Where no clause is for any model, what merging makes of them is the ratios and the clause of
    all names, in some order. -/
theorem mergeClauses_perm {cs : List Clause} (hplain : ∀ c ∈ cs, c.Plain)
    (hno : ∀ c ∈ cs, c.type ≠ .anyModel) :
    (mergeClauses cs).Perm
      ((cs.filter fun c => c.type == .ratio).eraseDups ++ jointClause cs) := by
  have hmerged := mergedClauses_mergeClauses hplain
  have hnodup : ((cs.filter fun c => c.type == .ratio).eraseDups ++ jointClause cs).Nodup := by
    refine List.nodup_append.mpr ⟨nodup_eraseDups _, nodup_jointClause cs, ?_⟩
    rintro c hc d hd rfl
    -- no clause is both a ratio and one of named models
    have hratio : c.type = .ratio := by
      simpa using (List.mem_filter.mp (List.mem_eraseDups.mp hc)).2
    rw [(mem_jointClause.mp hd).2] at hratio
    exact nomatch hratio
  refine (List.perm_ext_iff_of_nodup hmerged.nodup hnodup).mpr fun c => ?_
  rw [hmerged.mem_iff hno, List.mem_append, mem_jointClause, List.mem_eraseDups, List.mem_filter,
    beq_iff_eq, and_comm]

theorem alike_jointClause {cs ds : List Clause} (h : cs.Perm ds) :
    Multiset.Rel Clause.Alike (jointClause cs) (jointClause ds) := by
  have hnames : (namedIn cs).Perm (namedIn ds) := perm_eraseDups (h.flatMap_right _)
  unfold jointClause
  rw [h.any_eq]
  split
  · exact Multiset.Rel.cons ⟨rfl, hnames, rfl, rfl⟩ .zero
  · exact .zero

/-- **Clauses in another order are merged alike.** -/
theorem alike_mergeClauses {cs ds : List Clause} (hplain : ∀ c ∈ cs, c.Plain) (h : cs.Perm ds) :
    Multiset.Rel Clause.Alike (mergeClauses cs) (mergeClauses ds) := by
  have hplain' : ∀ d ∈ ds, d.Plain := fun d hd => hplain d (h.mem_iff.mpr hd)
  by_cases hany : ∃ c ∈ cs, c.type = .anyModel
  · obtain ⟨c, hc, htype⟩ := hany
    rw [mergeClauses_of_any ⟨c, hc, htype⟩, mergeClauses_of_any ⟨c, h.mem_iff.mp hc, htype⟩]
    exact Multiset.rel_refl_of_refl_on fun c _ => .refl c
  · push Not at hany
    have hany' : ∀ d ∈ ds, d.type ≠ .anyModel := fun d hd => hany d (h.mem_iff.mpr hd)
    have hratios := perm_eraseDups (h.filter fun c => c.type == .ratio)
    rw [Multiset.coe_eq_coe.mpr (mergeClauses_perm hplain hany),
      Multiset.coe_eq_coe.mpr (mergeClauses_perm hplain' hany'), ← Multiset.coe_add,
      ← Multiset.coe_add, Multiset.coe_eq_coe.mpr hratios]
    exact Multiset.Rel.add (Multiset.rel_refl_of_refl_on fun c _ => .refl c) (alike_jointClause h)

/-- **Eligibility says what the options grant.**  There is one entry for each item that an
    actionable option adds, in the order of first mention.  Its clauses are those of the options
    that add it: the one for any model alone, or else the ratios and one clause of all names, each
    once.  They are merged already, and options in another order change nothing but orders. -/
theorem eligibility_merged (os : List ParsedOption) (r : Resolver) :
    (eligibility os r).map Eligibility.weaponId
        = ((os.filter ParsedOption.isActionable).flatMap fun o => o.added r).eraseDups ∧
      (∀ e ∈ eligibility os r, MergedClauses (grantedTo os r e.weaponId) e.clauses ∧
        mergeClauses e.clauses = e.clauses) ∧
      ∀ os' : List ParsedOption, os.Perm os' →
        Multiset.Rel Eligibility.Alike (eligibility os r) (eligibility os' r) := by
  refine ⟨?_, fun e he => ?_, fun os' h => ?_⟩
  · rw [eligibility_eq, List.map_map]
    exact List.map_id _
  · rw [eligibility_eq] at he
    obtain ⟨id, _, rfl⟩ := List.mem_map.mp he
    have hplain : ∀ c ∈ grantedTo os r id, c.Plain := fun _ => plain_of_mem_grantedTo
    exact ⟨mergedClauses_mergeClauses hplain, mergeClauses_mergeClauses hplain⟩
  · have hids := perm_eraseDups
      ((h.filter ParsedOption.isActionable).flatMap_right fun o => o.added r)
    rw [eligibility_eq, eligibility_eq, ← Multiset.map_coe, ← Multiset.map_coe,
      Multiset.coe_eq_coe.mpr hids, Multiset.rel_map]
    refine Multiset.rel_refl_of_refl_on fun id _ => ⟨rfl, ?_⟩
    refine alike_mergeClauses (fun _ => plain_of_mem_grantedTo) ?_
    exact (h.filter _).map _

/-- Options of a guard: its sergeant gets a sword, one model in five gets one, and its champion gets
    a sword and a shield. -/
def guardOptions : List ParsedOption :=
  let option := fun (line : Int) (targeting : Targeting) (names : List String) =>
    (⟨line, "", true, targeting,
      ⟨"equip-with-list", .add, [], names.map fun name => ⟨[⟨name, 1⟩], false⟩, true, none⟩,
      .none⟩ : ParsedOption)
  let model := Targeting.plain "this-model" "specific-model"
  [option 1 { model with modelType := some "Sergeant" } ["sword"],
    option 2 { Targeting.plain "ratio" "ratio" with ratio := some 5 } ["sword"],
    option 3 { model with modelType := some "Champion" } ["sword", "shield"]]

/-- Whichever option comes first, the sword is for the sergeant, the champion and one in five. -/
theorem eligibility_guard :
    (eligibility guardOptions ⟨"g", [], []⟩).map Eligibility.weaponId = ["g:sword", "g:shield"] ∧
      ⟨"g:sword", [.ofModels ["Sergeant", "Champion"], ⟨.ratio, [], some 5, some 1⟩]⟩
        ∈ eligibility guardOptions ⟨"g", [], []⟩ ∧
      guardOptions.Perm guardOptions.reverse ∧
      Multiset.Rel Eligibility.Alike (eligibility guardOptions ⟨"g", [], []⟩)
        (eligibility guardOptions.reverse ⟨"g", [], []⟩) := by
  have hperm : guardOptions.Perm guardOptions.reverse := (List.reverse_perm guardOptions).symm
  obtain ⟨hids, _, horder⟩ := eligibility_merged guardOptions ⟨"g", [], []⟩
  refine ⟨?_, ?_, hperm, horder guardOptions.reverse hperm⟩
  · rw [hids]
    decide +kernel
  · decide +kernel

end Muster.Wargear
