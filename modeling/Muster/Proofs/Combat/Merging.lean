/-
  Merging: sightings of faction abilities, folded into one ability per id.

  1. **Program.**  `mergeStep` takes in one sighting.  An id that is not yet known goes last; of one
     that is known, the stored ability keeps its place, its name and its texts, and takes over the
     mechanics of the sighting if it has none itself or those are larger in writing.

  2. **Specification.**  `MergedFrom as a` says what the ability `a` has to be, after the sightings
     `as`: the first of its id gives name and texts, and of the sightings of its id that have
     mechanics the first among the largest gives the mechanics (`Richest`).

  3. **The crux** is that taking in sightings is ASSOCIATIVE (`enrich_assoc`).  So what is known of an
     id after two lists of sightings is what the first list tells of it, enriched by what the second
     tells (`known_append`), and a list may be cut into shards that are merged on their own.  The
     order of the ids is that of their first occurrences, which cutting does not change either
     (`eraseDups_append_eraseDups`).
-/
import Mathlib
import Muster.Proofs.Combat.Registry
import Muster.Proofs.FirstOccurrence

namespace Muster.Combat

open Document

/-! ## Enriching -/

/-- The mechanics that are kept of two lists, the first in doubt. -/
def richer (ms ns : List Mechanic) : List Mechanic :=
  if ns = [] then ms
  else if ms = [] ∨ mechanicsSize ms < mechanicsSize ns then ns else ms

theorem richer_nil (ns : List Mechanic) : richer [] ns = ns := by
  rw [richer]
  by_cases hns : ns = []
  · rw [if_pos hns, hns]
  · rw [if_neg hns, if_pos (Or.inl rfl)]

theorem enrich_eq (a b : FactionAbility) :
    a.enrich b = { a with mechanics := richer a.mechanics b.mechanics } := by
  rw [FactionAbility.enrich, richer]
  simp only [List.isEmpty_iff, Bool.or_eq_true, decide_eq_true_eq, gt_iff_lt]
  split_ifs <;> rfl

/-- Mechanics are replaced by some that are larger. -/
theorem richer_of_larger {ms ns : List Mechanic} (hns : ns ≠ [])
    (h : mechanicsSize ms < mechanicsSize ns) : richer ms ns = ns := by
  rw [richer, if_neg hns, if_pos (Or.inr h)]

/-- Mechanics are kept unless there are some that are larger. -/
theorem richer_of_not_larger {ms ns : List Mechanic} (hms : ms ≠ [])
    (h : ns ≠ [] → mechanicsSize ns ≤ mechanicsSize ms) : richer ms ns = ms := by
  rw [richer]
  split_ifs with hns hlarger
  · rfl
  · rcases hlarger with hnone | hsize
    · exact absurd hnone hms
    · exact absurd (h hns) (not_le.mpr hsize)
  · rfl

theorem richer_assoc (ms ns ks : List Mechanic) :
    richer (richer ms ns) ks = richer ms (richer ns ks) := by
  simp only [richer]
  by_cases hms : ms = [] <;> by_cases hns : ns = [] <;> by_cases hks : ks = [] <;> grind

/-- **Taking in sightings is associative.** -/
theorem enrich_assoc (a b c : FactionAbility) :
    (a.enrich b).enrich c = a.enrich (b.enrich c) := by
  simp only [enrich_eq, richer_assoc]

/-- The first of some sightings, enriched by the others in turn. -/
def enriched (as : List FactionAbility) : Option FactionAbility :=
  as.foldl (fun o a => o.merge FactionAbility.enrich (some a)) none

theorem enriched_concat (as : List FactionAbility) (a : FactionAbility) :
    enriched (as ++ [a]) = (enriched as).merge FactionAbility.enrich (some a) := by
  rw [enriched, List.foldl_append]
  rfl

theorem enriched_append (as bs : List FactionAbility) :
    enriched (as ++ bs) = (enriched as).merge FactionAbility.enrich (enriched bs) := by
  induction bs using List.reverseRecOn with
  | nil =>
    rw [List.append_nil]
    cases enriched as <;> rfl
  | append_singleton bs b ih =>
    rw [← List.append_assoc, enriched_concat, enriched_concat, ih]
    cases enriched as with
    | none => cases enriched bs <;> rfl
    | some c =>
      cases enriched bs with
      | none => rfl
      | some d => exact congrArg some (enrich_assoc c d b)

theorem enriched_eq_none_iff {as : List FactionAbility} : enriched as = none ↔ as = [] := by
  cases as using List.reverseRecOn with
  | nil => exact iff_of_true rfl rfl
  | append_singleton as a =>
    rw [enriched_concat]
    refine iff_of_false ?_ (by simp)
    cases enriched as <;> exact nofun

/-! ## What is kept of the sightings -/

/-- What identifies an ability and describes it, its mechanics apart. -/
structure SameIdentity (a b : FactionAbility) : Prop where
  id : a.id = b.id
  name : a.name = b.name
  description : a.description = b.description
  legend : a.legend = b.legend

/-- Of some sightings, the mechanics of the first among those with the largest; none if no sighting
    has any. -/
def Richest (as : List FactionAbility) (ms : List Mechanic) : Prop :=
  (ms = [] ∧ ∀ a ∈ as, a.mechanics = []) ∨
  ∃ front a back, as = front ++ a :: back ∧ a.mechanics ≠ [] ∧ ms = a.mechanics ∧
    (∀ b ∈ front, b.mechanics ≠ [] → mechanicsSize b.mechanics < mechanicsSize a.mechanics) ∧
    ∀ b ∈ back, b.mechanics ≠ [] → mechanicsSize b.mechanics ≤ mechanicsSize a.mechanics

/-- One more sighting keeps what is richest. -/
theorem Richest.step {as : List FactionAbility} {ms : List Mechanic} (h : Richest as ms)
    (b : FactionAbility) : Richest (as ++ [b]) (richer ms b.mechanics) := by
  rcases h with ⟨rfl, hnone⟩ | ⟨front, a, back, rfl, hsome, rfl, hfront, hback⟩
  · rw [richer_nil]
    by_cases hb : b.mechanics = []
    · refine Or.inl ⟨hb, fun a ha => ?_⟩
      rcases List.mem_append.mp ha with ha | ha
      · exact hnone a ha
      · rw [List.mem_singleton.mp ha, hb]
    · exact Or.inr ⟨as, b, [], rfl, hb, rfl, fun a ha hne => absurd (hnone a ha) hne, nofun⟩
  · by_cases hlarger : b.mechanics ≠ [] ∧ mechanicsSize a.mechanics < mechanicsSize b.mechanics
    · obtain ⟨hb, hsize⟩ := hlarger
      rw [richer_of_larger hb hsize]
      -- the largest so far was larger than its front and no smaller than its back
      refine Or.inr ⟨front ++ a :: back, b, [], rfl, hb, rfl, fun c hc hne => ?_, nofun⟩
      rcases List.mem_append.mp hc with hc | hc
      · exact (hfront c hc hne).trans hsize
      · rcases List.mem_cons.mp hc with rfl | hc
        · exact hsize
        · exact (hback c hc hne).trans_lt hsize
    · have hsize : b.mechanics ≠ [] → mechanicsSize b.mechanics ≤ mechanicsSize a.mechanics :=
        fun hb => not_lt.mp fun hsize => hlarger ⟨hb, hsize⟩
      rw [richer_of_not_larger hsome hsize]
      refine Or.inr ⟨front, a, back ++ [b], by simp, hsome, rfl, hfront, fun c hc hne => ?_⟩
      rcases List.mem_append.mp hc with hc | hc
      · exact hback c hc hne
      · rw [List.mem_singleton.mp hc] at hne ⊢
        exact hsize hne

/-- **What sightings come to**: the identity of the first, and the richest mechanics. -/
theorem kept_of_enriched {as : List FactionAbility} {m : FactionAbility}
    (h : enriched as = some m) :
    (∃ a, as.head? = some a ∧ SameIdentity m a) ∧ Richest as m.mechanics := by
  induction as using List.reverseRecOn generalizing m with
  | nil => cases h
  | append_singleton as b ih =>
    rw [enriched_concat] at h
    cases hfirst : enriched as with
    | none =>
      rw [hfirst] at h
      obtain rfl : as = [] := enriched_eq_none_iff.mp hfirst
      obtain rfl : b = m := Option.some.inj h
      have hrichest : Richest ([] ++ [b]) (richer [] b.mechanics) :=
        Richest.step (Or.inl ⟨rfl, fun _ ha => absurd ha List.not_mem_nil⟩) b
      rw [richer_nil] at hrichest
      exact ⟨⟨b, rfl, rfl, rfl, rfl, rfl⟩, hrichest⟩
    | some c =>
      rw [hfirst] at h
      obtain rfl : c.enrich b = m := Option.some.inj h
      obtain ⟨⟨a, hhead, hsame⟩, hrichest⟩ := ih hfirst
      rw [enrich_eq]
      refine ⟨⟨a, ?_, hsame.id, hsame.name, hsame.description, hsame.legend⟩, hrichest.step b⟩
      rw [List.head?_append, hhead]
      rfl

/-! ## What is known of an id -/

/-- The sightings of an id. -/
def sightings (as : List FactionAbility) (id : String) : List FactionAbility :=
  as.filter fun a => a.id == id

/-- What is known of an id after some sightings. -/
def known (as : List FactionAbility) (id : String) : Option FactionAbility :=
  enriched (sightings as id)

/-- **What two lists tell of an id** is what the first tells, enriched by what the second tells. -/
theorem known_append (as bs : List FactionAbility) (id : String) :
    known (as ++ bs) id = (known as id).merge FactionAbility.enrich (known bs id) := by
  rw [known, sightings, List.filter_append, enriched_append]
  rfl

theorem known_concat (as : List FactionAbility) (a : FactionAbility) (id : String) :
    known (as ++ [a]) id
      = if a.id = id then (known as id).merge FactionAbility.enrich (some a) else known as id := by
  rw [known_append, known, known, sightings, sightings]
  split_ifs with hid
  · rw [List.filter_cons_of_pos (by simpa using hid)]
    rfl
  · rw [List.filter_cons_of_neg (by simpa using hid)]
    cases enriched (as.filter fun a => a.id == id) <;> rfl

theorem known_eq_none_iff {as : List FactionAbility} {id : String} :
    known as id = none ↔ id ∉ as.map FactionAbility.id := by
  rw [known, enriched_eq_none_iff, sightings, List.filter_eq_nil_iff, List.mem_map]
  constructor
  · rintro h ⟨a, ha, rfl⟩
    exact h a ha (beq_self_eq_true a.id)
  · intro h a ha hid
    exact h ⟨a, ha, beq_iff_eq.mp hid⟩

/-- What an ability is known by does not change. -/
theorem id_of_known {as : List FactionAbility} {id : String} {m : FactionAbility}
    (h : known as id = some m) : m.id = id := by
  obtain ⟨⟨a, hhead, hsame⟩, -⟩ := kept_of_enriched h
  have ha : a ∈ sightings as id := List.mem_of_mem_head? hhead
  exact hsame.id.trans (beq_iff_eq.mp (List.mem_filter.mp ha).2)

/-! ## The table of a merge -/

/-- A table holds what some sightings tell: their ids in the order of the first occurrences, and
    under each what is known of it. -/
structure TableOf (as : List FactionAbility) (t : List (String × FactionAbility)) : Prop where
  ids : t.map Prod.fst = (as.map FactionAbility.id).eraseDups
  lookup : ∀ id, t.lookup id = known as id

/-- One more sighting. -/
theorem TableOf.step {as : List FactionAbility} {t : List (String × FactionAbility)}
    (h : TableOf as t) (a : FactionAbility) : TableOf (as ++ [a]) (mergeStep t a) := by
  have hmem : a.id ∈ t.map Prod.fst ↔ a.id ∈ as.map FactionAbility.id := by
    rw [h.ids, List.mem_eraseDups]
  rw [mergeStep]
  cases hlookup : t.lookup a.id with
  | none =>
    -- the id is new and goes last
    have hnew : a.id ∉ as.map FactionAbility.id := by
      rwa [← known_eq_none_iff, ← h.lookup]
    constructor
    · rw [List.map_append, List.map_append, h.ids]
      exact (eraseDups_concat_of_not_mem hnew).symm
    · intro id
      rw [known_concat, List.lookup_append, h.lookup, List.lookup_cons]
      by_cases hid : a.id = id
      · subst hid
        rw [if_pos rfl, beq_self_eq_true, ← h.lookup, hlookup]
        rfl
      · rw [if_neg hid, beq_eq_false_iff_ne.mpr (Ne.symm hid)]
        exact Option.or_none
  | some b =>
    -- the id is known, and what is stored is enriched where it stands
    have hold : a.id ∈ as.map FactionAbility.id := by
      by_contra hnew
      rw [h.lookup, known_eq_none_iff.mpr hnew] at hlookup
      cases hlookup
    constructor
    · rw [Table.map_fst_put _ (hmem.mpr hold), List.map_append, h.ids]
      exact (eraseDups_concat_of_mem hold).symm
    · intro id
      rw [known_concat, Table.lookup_put, h.lookup]
      by_cases hid : a.id = id
      · subst hid
        rw [if_pos rfl, beq_self_eq_true, ← h.lookup, hlookup]
        rfl
      · rw [if_neg hid, beq_eq_false_iff_ne.mpr (Ne.symm hid)]
        rfl

/-- The whole run. -/
theorem tableOf_merge (as : List FactionAbility) : TableOf as (as.foldl mergeStep []) := by
  induction as using List.reverseRecOn with
  | nil => exact ⟨rfl, fun _ => rfl⟩
  | append_singleton as a ih =>
    rw [List.foldl_append]
    exact ih.step a

/-- A table whose keys differ is read off its keys. -/
theorem map_snd_eq_filterMap {α : Type} : ∀ {t : List (String × α)}, (t.map Prod.fst).Nodup →
    t.map Prod.snd = (t.map Prod.fst).filterMap fun k => t.lookup k
  | [], _ => rfl
  | p :: t, h => by
    obtain ⟨hp, ht⟩ := List.nodup_cons.mp h
    have hrest : (t.map Prod.fst).filterMap (fun k => (p :: t).lookup k)
        = (t.map Prod.fst).filterMap fun k => t.lookup k := by
      refine List.filterMap_congr fun k hk => ?_
      have hne : k ≠ p.1 := fun heq => hp (heq ▸ hk)
      rw [List.lookup_cons, beq_eq_false_iff_ne.mpr hne]
    rw [List.map_cons, List.map_cons, List.filterMap_cons, List.lookup_cons, beq_self_eq_true,
      hrest, map_snd_eq_filterMap ht]

/-- **What a merge gives**: for each id, in the order of the first sightings, what is known of it. -/
theorem merge_eq (as : List FactionAbility) : mergeFactionAbilities as
    = (as.map FactionAbility.id).eraseDups.filterMap (known as) := by
  have htable := tableOf_merge as
  have hnodup : ((as.foldl mergeStep []).map Prod.fst).Nodup := by
    rw [htable.ids]
    exact nodup_eraseDups _
  rw [mergeFactionAbilities, map_snd_eq_filterMap hnodup, htable.ids]
  exact congrArg (fun f => List.filterMap f _) (funext htable.lookup)

/-- The ids of a merge are those of the sightings, each once, in the order of the first sightings. -/
theorem map_id_merge (as : List FactionAbility) :
    (mergeFactionAbilities as).map FactionAbility.id = (as.map FactionAbility.id).eraseDups := by
  rw [merge_eq, List.map_filterMap]
  refine (List.filterMap_congr (g := some) fun id hid => ?_).trans List.filterMap_some
  cases hknown : known as id with
  | none => exact absurd (List.mem_eraseDups.mp hid) (known_eq_none_iff.mp hknown)
  | some a => exact congrArg some (id_of_known hknown)

/-- What some ids are known by tells of each of them what is known of it. -/
theorem known_filterMap (as : List FactionAbility) {ids : List String} (h : ids.Nodup)
    (id : String) :
    known (ids.filterMap (known as)) id = if id ∈ ids then known as id else none := by
  induction ids using List.reverseRecOn with
  | nil => rfl
  | append_singleton ids k ih =>
    obtain ⟨hids, -, hapart⟩ := List.nodup_append.mp h
    have hk : k ∉ ids := fun hmem => hapart k hmem k (List.mem_singleton_self k) rfl
    have ih := ih hids
    -- what `k` is known by has the id `k`, so it is a sighting of `id` only where `id` is `k`
    rw [List.filterMap_append, List.filterMap_cons, List.filterMap_nil]
    by_cases hid : id = k
    · subst hid
      rw [if_neg hk] at ih
      rw [if_pos (List.mem_append_right ids (List.mem_singleton_self id))]
      cases hknown : known as id with
      | none => exact (congrArg (known · id) (List.append_nil _)).trans ih
      | some a =>
        dsimp only
        rw [known_concat, if_pos (id_of_known hknown), ih]
        rfl
    · have hmem : id ∈ ids ++ [k] ↔ id ∈ ids := by simp [hid]
      simp only [hmem, ← ih]
      cases hknown : known as k with
      | none => exact congrArg (known · id) (List.append_nil _)
      | some a =>
        have hother : a.id ≠ id := fun heq => hid (heq.symm.trans (id_of_known hknown))
        dsimp only
        rw [known_concat, if_neg hother]

/-- Of each id a merge tells what the sightings tell. -/
theorem known_merge (as : List FactionAbility) (id : String) :
    known (mergeFactionAbilities as) id = known as id := by
  rw [merge_eq, known_filterMap as (nodup_eraseDups _)]
  split_ifs with hid
  · rfl
  · exact (known_eq_none_iff.mpr (mt List.mem_eraseDups.mpr hid)).symm

/-! ## Shards -/

/-- A merge of merged shards is a merge of all. -/
theorem merge_merge_append (as bs : List FactionAbility) :
    mergeFactionAbilities (mergeFactionAbilities as ++ mergeFactionAbilities bs)
      = mergeFactionAbilities (as ++ bs) := by
  have hids : ((mergeFactionAbilities as ++ mergeFactionAbilities bs).map
      FactionAbility.id).eraseDups = ((as ++ bs).map FactionAbility.id).eraseDups := by
    rw [List.map_append, List.map_append, map_id_merge, map_id_merge, eraseDups_append_eraseDups]
  have hknown :
      known (mergeFactionAbilities as ++ mergeFactionAbilities bs) = known (as ++ bs) := by
    funext id
    rw [known_append, known_append, known_merge, known_merge]
  rw [merge_eq, merge_eq (as ++ bs), hids, hknown]

/-- A merge leaves nothing to merge. -/
theorem merge_merge (as : List FactionAbility) :
    mergeFactionAbilities (mergeFactionAbilities as) = mergeFactionAbilities as := by
  have h := merge_merge_append as []
  rw [List.append_nil] at h
  exact (congrArg mergeFactionAbilities (List.append_nil _)).symm.trans h

/-- What an ability has to be after some sightings: the first of its id gives its name and its
    texts, and the richest of its id its mechanics. -/
structure MergedFrom (as : List FactionAbility) (m : FactionAbility) : Prop where
  identity : ∃ a, (sightings as m.id).head? = some a ∧ SameIdentity m a
  mechanics : Richest (sightings as m.id) m.mechanics

theorem mergedFrom_of_mem_merge {as : List FactionAbility} {m : FactionAbility}
    (h : m ∈ mergeFactionAbilities as) : MergedFrom as m := by
  rw [merge_eq] at h
  obtain ⟨id, -, hknown⟩ := List.mem_filterMap.mp h
  obtain rfl : m.id = id := id_of_known hknown
  obtain ⟨hidentity, hmechanics⟩ := kept_of_enriched hknown
  exact ⟨hidentity, hmechanics⟩

/-- **Merging can be cut into shards.**  A merge gives one ability for each id that was sighted, in
    the order of the first sightings, with the name and the texts of the first and the richest
    mechanics.  So the shards of a list may be merged on their own, and merging again changes
    nothing. -/
theorem merge_shards :
    (∀ as, (mergeFactionAbilities as).map FactionAbility.id = (as.map FactionAbility.id).eraseDups ∧
      ∀ m ∈ mergeFactionAbilities as, MergedFrom as m) ∧
    (∀ as bs, mergeFactionAbilities (as ++ bs)
      = mergeFactionAbilities (mergeFactionAbilities as ++ mergeFactionAbilities bs)) ∧
    ∀ as, mergeFactionAbilities (mergeFactionAbilities as) = mergeFactionAbilities as :=
  ⟨fun as => ⟨map_id_merge as, fun _ hm => mergedFrom_of_mem_merge hm⟩,
    fun as bs => (merge_merge_append as bs).symm, merge_merge⟩

end Muster.Combat
