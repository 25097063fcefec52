/-
  Faction registries: which ability stands under an id and which under a name.

  1. **Program.**  One run over the abilities fills two indexes (`FactionRegistry.add`).  An ability
     takes over its id, and takes its loose name only if no ability before it has that name.

  2. **Specification.**  Under an id stands the last ability of that id (`get?_ofAbilities`), under
     a name the first of that name (`getByName?_ofAbilities`).

  3. **What follows** (`lookups_agree`).  A name always leads to an id that is known.  But the
     ability under that id is the one that the name leads to only if no later ability replaced it;
     where an ability is given twice, the name serves a version that the id no longer does.
-/
import Mathlib
import Muster.Proofs.Combat.Registry

namespace Muster.Combat

/-- An ability has a name, compared loosely. -/
def FactionAbility.Named (a : FactionAbility) (name : String) : Prop :=
  looseKey a.name.toList = looseKey name.toList

/-- The first of some abilities that has a name. -/
def FirstNamed (as : List FactionAbility) (name : String) (a : FactionAbility) : Prop :=
  ∃ front back, as = front ++ a :: back ∧ a.Named name ∧ ∀ b ∈ front, ¬ b.Named name

/-- Of some abilities, the last that has its id. -/
def LastOfId (as : List FactionAbility) (a : FactionAbility) : Prop :=
  ∃ front back, as = front ++ a :: back ∧ ∀ b ∈ back, b.id ≠ a.id

namespace FactionRegistry

variable {as : List FactionAbility} {a : FactionAbility}

/-! ## One ability more -/

theorem ofAbilities_concat (as : List FactionAbility) (a : FactionAbility) :
    ofAbilities (as ++ [a]) = (ofAbilities as).add a := by
  rw [ofAbilities, List.foldl_append]
  rfl

theorem get?_add (r : FactionRegistry) (a : FactionAbility) (id : String) :
    (r.add a).get? id = if id == a.id then some a else r.get? id :=
  Table.lookup_put a.id id a r.byId

/-- A name that is taken stays with the ability that has it. -/
theorem getByName?_add (r : FactionRegistry) (a : FactionAbility) (name : String) :
    (r.add a).getByName? name = (r.getByName? name).or
      (if looseKey a.name.toList == looseKey name.toList then some a else none) := by
  have hown : List.lookup (looseKey name.toList) [(looseKey a.name.toList, a)]
      = if looseKey a.name.toList == looseKey name.toList then some a else none := by
    rw [List.lookup_cons, List.lookup_nil, BEq.comm]
    split <;> simp_all
  rw [getByName?, getByName?, add]
  dsimp only
  by_cases htaken : (r.byName.lookup (looseKey a.name.toList)).isSome = true
  · rw [if_pos htaken]
    by_cases hname : looseKey a.name.toList = looseKey name.toList
    · rw [← hname]
      exact (Option.or_of_isSome htaken).symm
    · rw [beq_eq_false_iff_ne.mpr hname, if_neg Bool.false_ne_true, Option.or_none]
  · rw [if_neg htaken, List.lookup_append, hown]

/-! ## All abilities -/

/-- **Under an id stands the last ability of that id.** -/
theorem get?_ofAbilities (as : List FactionAbility) (id : String) :
    (ofAbilities as).get? id = as.reverse.find? fun a => id == a.id := by
  induction as using List.reverseRecOn with
  | nil => rfl
  | append_singleton as a ih =>
    rw [ofAbilities_concat, get?_add, ih, List.reverse_append, List.reverse_singleton,
      List.singleton_append, List.find?_cons]
    cases id == a.id <;> rfl

/-- **Under a name stands the first ability of that name.** -/
theorem getByName?_ofAbilities (as : List FactionAbility) (name : String) :
    (ofAbilities as).getByName? name
      = as.find? fun a => looseKey a.name.toList == looseKey name.toList := by
  induction as using List.reverseRecOn with
  | nil => rfl
  | append_singleton as a ih =>
    rw [ofAbilities_concat, getByName?_add, ih, List.find?_append, List.find?_singleton]

theorem firstNamed_of_getByName? {name : String}
    (h : (ofAbilities as).getByName? name = some a) : FirstNamed as name a := by
  rw [getByName?_ofAbilities, List.find?_eq_some_iff_append] at h
  obtain ⟨hname, front, back, hsplit, hfront⟩ := h
  refine ⟨front, back, hsplit, beq_iff_eq.mp hname, fun b hb hnamed => ?_⟩
  have hother := hfront b hb
  rw [beq_iff_eq.mpr hnamed] at hother
  cases hother

theorem get?_eq_some_iff_lastOfId : (ofAbilities as).get? a.id = some a ↔ LastOfId as a := by
  rw [get?_ofAbilities, List.find?_eq_some_iff_append]
  constructor
  · rintro ⟨-, front, back, hsplit, hfront⟩
    refine ⟨back.reverse, front.reverse, ?_, fun b hb => ?_⟩
    · rw [← List.reverse_reverse as, hsplit, List.reverse_append, List.reverse_cons,
        List.append_assoc, List.singleton_append]
    · have hne := hfront b (List.mem_reverse.mp hb)
      exact fun h => by simp [h] at hne
  · rintro ⟨front, back, rfl, hback⟩
    refine ⟨beq_self_eq_true a.id, back.reverse, front.reverse, ?_, fun b hb => ?_⟩
    · rw [List.reverse_append, List.reverse_cons, List.append_assoc, List.singleton_append]
    · simpa using (hback b (List.mem_reverse.mp hb)).symm

/-- The id of every ability is known. -/
theorem exists_get?_of_mem (h : a ∈ as) :
    ∃ b, (ofAbilities as).get? a.id = some b ∧ b ∈ as ∧ b.id = a.id := by
  cases hfind : (ofAbilities as).get? a.id with
  | none =>
    rw [get?_ofAbilities, List.find?_eq_none] at hfind
    exact absurd (beq_self_eq_true a.id) (hfind a (List.mem_reverse.mpr h))
  | some b =>
    rw [get?_ofAbilities] at hfind
    have hid : (a.id == b.id) = true :=
      List.find?_some (p := fun b : FactionAbility => a.id == b.id) hfind
    exact ⟨b, rfl, List.mem_reverse.mp (List.mem_of_find?_eq_some hfind), (beq_iff_eq.mp hid).symm⟩

/-- Where ids are not repeated, every ability is the last of its id. -/
theorem lastOfId_of_nodup (hids : (as.map FactionAbility.id).Nodup) (h : a ∈ as) :
    LastOfId as a := by
  obtain ⟨front, back, rfl⟩ := List.append_of_mem h
  refine ⟨front, back, rfl, fun b hb heq => ?_⟩
  rw [List.map_append, List.map_cons, List.nodup_append, List.nodup_cons] at hids
  exact hids.2.1.1 (heq ▸ List.mem_map_of_mem hb)

/-- **Lookup by name against lookup by id.**  A name leads to the first ability of that name.  The
    id of that ability is known, and leads back to it exactly if no later ability has the id; so
    where ids are not repeated the two lookups agree on every ability.  Under a name that leads
    nowhere, no id leads to an ability of that name. -/
theorem lookups_agree (as : List FactionAbility) :
    (∀ name a, (ofAbilities as).getByName? name = some a → FirstNamed as name a ∧
      ∃ b, (ofAbilities as).get? a.id = some b ∧ b.id = a.id ∧ (b = a ↔ LastOfId as a)) ∧
    ((as.map FactionAbility.id).Nodup → ∀ name a, (ofAbilities as).getByName? name = some a →
      (ofAbilities as).get? a.id = some a) ∧
    ∀ name, (ofAbilities as).getByName? name = none →
      ∀ id a, (ofAbilities as).get? id = some a → ¬ a.Named name := by
  have hmem : ∀ {name a}, FirstNamed as name a → a ∈ as := by
    rintro name a ⟨front, back, rfl, -, -⟩
    simp
  refine ⟨fun name a h => ?_, fun hids name a h => ?_, fun name h id a hget hname => ?_⟩
  · have hfirst := firstNamed_of_getByName? h
    obtain ⟨b, hb, -, hid⟩ := exists_get?_of_mem (hmem hfirst)
    refine ⟨hfirst, b, hb, hid, ?_⟩
    rw [← get?_eq_some_iff_lastOfId, hb, Option.some_inj]
  · have hfirst := firstNamed_of_getByName? h
    exact get?_eq_some_iff_lastOfId.mpr (lastOfId_of_nodup hids (hmem hfirst))
  · rw [getByName?_ofAbilities, List.find?_eq_none] at h
    rw [get?_ofAbilities] at hget
    have ha : a ∈ as := List.mem_reverse.mp (List.mem_of_find?_eq_some hget)
    exact h a ha (beq_iff_eq.mpr hname)

/-- An ability without mechanics, in one of its versions. -/
def oath (description : String) : FactionAbility := ⟨"oath", "Oath", description, "", []⟩

/-- Given twice, an ability is served in its old version by name and in its new one by id. -/
theorem not_lookups_agree_oath :
    (ofAbilities [oath "old", oath "new"]).getByName? "Oath" = some (oath "old") ∧
    (ofAbilities [oath "old", oath "new"]).get? (oath "old").id = some (oath "new") ∧
    oath "old" ≠ oath "new" :=
  ⟨by rfl, by rfl, fun h => absurd (congrArg FactionAbility.description h) (by decide)⟩

end FactionRegistry

end Muster.Combat
