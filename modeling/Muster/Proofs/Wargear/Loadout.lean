/-
  Loadouts in sorted order: what the list operations behind an expansion come to.

  A loadout is kept sorted so that "the same items" can be told by comparing lists.  Three facts
  carry all that is built on this:

    (1) `ofItems` sorts.  Its result is `Ordered` and a permutation of what it was given, so
        `ofItems a = ofItems b` says exactly that `a` and `b` hold the same items as often.
    (2) `change` is determined by counts.  An item that stays keeps its count, and one that is put
        in and was not there counts once (`count_change`); order and repetitions of what is put in
        do not matter.
    (3) `firsts` is `List.eraseDups`: the hash set only says faster what was seen before.
-/
import Mathlib
import Muster.Proofs.FirstOccurrence
import Muster.Wargear.Loadout

namespace Muster.Wargear

namespace Loadout

/-! ## Sorting -/

/-- Ids in ascending order, equal ones next to each other. -/
def Ordered (l : List String) : Prop := l.Pairwise fun a b => ¬ b < a

theorem insertSorted_perm (a : String) (l : List String) : (insertSorted a l).Perm (a :: l) := by
  induction l with
  | nil => exact List.Perm.refl _
  | cons b bs ih =>
    rw [insertSorted]
    split
    · exact (ih.cons b).trans (List.Perm.swap a b bs)
    · exact List.Perm.refl _

theorem insertSorted_ordered (a : String) {l : List String} (h : Ordered l) :
    Ordered (insertSorted a l) := by
  induction l with
  | nil => exact List.pairwise_singleton _ _
  | cons b bs ih =>
    obtain ⟨hb, hbs⟩ := List.pairwise_cons.mp h
    rw [insertSorted]
    split
    · rename_i hba
      refine List.pairwise_cons.mpr ⟨?_, ih hbs⟩
      intro c hc
      rcases List.mem_cons.mp ((insertSorted_perm a bs).mem_iff.mp hc) with rfl | hc
      · exact fun hcb => String.lt_irrefl b (String.lt_trans hba hcb)
      · exact hb c hc
    · rename_i hba
      refine List.pairwise_cons.mpr ⟨?_, h⟩
      intro c hc
      rcases List.mem_cons.mp hc with rfl | hc
      · exact hba
      · -- `a ≤ b ≤ c`, written with the strict order
        exact fun hca => String.le_trans (String.not_lt.mp hba) (String.not_lt.mp (hb c hc)) hca

theorem ofItems_perm (ids : List String) : (ofItems ids).Perm ids := by
  induction ids with
  | nil => exact List.Perm.refl _
  | cons a as ih => exact (insertSorted_perm a (ofItems as)).trans (ih.cons a)

theorem ofItems_ordered (ids : List String) : Ordered (ofItems ids) := by
  induction ids with
  | nil => exact List.Pairwise.nil
  | cons a as ih => exact insertSorted_ordered a ih

/-- Two ordered lists of the same items are the same list. -/
theorem Ordered.eq_of_perm {l m : List String} (hl : Ordered l) (hm : Ordered m)
    (h : l.Perm m) : l = m :=
  h.eq_of_pairwise
    (fun _ _ _ _ hab hba => String.le_antisymm (String.not_lt.mp hab) (String.not_lt.mp hba)) hl hm

/-- **Sorting decides sameness.**  Two lists have the same sorted form exactly if one is a
    permutation of the other. -/
theorem ofItems_eq_iff {as bs : List String} : ofItems as = ofItems bs ↔ as.Perm bs := by
  constructor
  · intro h
    exact (ofItems_perm as).symm.trans (h ▸ ofItems_perm bs)
  · intro h
    exact (ofItems_ordered as).eq_of_perm (ofItems_ordered bs)
      ((ofItems_perm as).trans (h.trans (ofItems_perm bs).symm))

/-! ## Taking out and putting in -/

/-- What is put behind the kept ids counts once, unless it was kept already. -/
theorem count_addMissing (a : String) (kept added : List String) :
    (addMissing kept added).count a =
      if a ∈ kept then kept.count a else if a ∈ added then 1 else 0 := by
  induction added generalizing kept with
  | nil =>
    rw [addMissing]
    split
    · rfl
    · rename_i ha
      simpa using List.count_eq_zero.mpr ha
  | cons b bs ih =>
    rw [addMissing, ih]
    by_cases hb : b ∈ kept
    · rw [if_pos (show kept.contains b = true by simpa using hb)]
      by_cases ha : a ∈ kept
      · rw [if_pos ha, if_pos ha]
      · have hab : a ≠ b := fun h => ha (h ▸ hb)
        simp [ha, hab]
    · rw [if_neg (show ¬ kept.contains b = true by simpa using hb)]
      by_cases hab : a = b
      · subst hab
        simp [hb, List.count_eq_zero.mpr hb]
      · have hba : ¬ b = a := fun h => hab h.symm
        simp [hab, hba]

/-- **The counts of a changed loadout**: what stays keeps its count, what comes in counts once. -/
theorem count_change (a : String) (l : Loadout) (removed added : List String) :
    (l.change removed added).count a =
      if a ∈ l ∧ a ∉ removed then l.count a else if a ∈ added then 1 else 0 := by
  rw [change, (ofItems_perm _).count_eq, count_addMissing]
  by_cases ha : a ∈ l ∧ a ∉ removed
  · rw [if_pos (by simpa using ha), if_pos ha, List.count_filter (by simpa using ha.2)]
  · rw [if_neg (by simpa using ha), if_neg ha]

theorem change_ordered (l : Loadout) (removed added : List String) :
    Ordered (l.change removed added) := ofItems_ordered _

end Loadout

/-! ## First occurrences -/

section Firsts

variable {α : Type} [BEq α] [Hashable α] [LawfulBEq α]

/-- What a run over `as` keeps: what it kept before, and the first of each item not seen yet. -/
theorem toList_firstsFrom (as : List α) : ∀ (seen : Std.HashSet α) (kept : Array α),
    (firstsFrom seen kept as).toList
      = kept.toList ++ (as.filter fun a => !seen.contains a).eraseDups := by
  induction as with
  | nil => intro seen kept; simp [firstsFrom]
  | cons a as ih =>
    intro seen kept
    rw [firstsFrom]
    split
    · rename_i hseen
      rw [ih, List.filter_cons_of_neg (by simp [hseen])]
    · rename_i hseen
      have hrest : (as.filter fun b => !(seen.insert a).contains b)
          = (as.filter fun b => !seen.contains b).filter fun b => !b == a := by
        rw [List.filter_filter]
        refine List.filter_congr fun b _ => ?_
        rw [Std.HashSet.contains_insert, Bool.not_or, BEq.comm]
      rw [ih, hrest, List.filter_cons_of_pos (by simpa using hseen), List.eraseDups_cons,
        Array.toList_push, List.append_assoc, List.singleton_append]

theorem firsts_eq_eraseDups (as : List α) : firsts as = as.eraseDups := by
  rw [firsts, toList_firstsFrom]
  simp

@[simp] theorem mem_firsts {a : α} {as : List α} : a ∈ firsts as ↔ a ∈ as := by
  rw [firsts_eq_eraseDups, List.mem_eraseDups]

theorem nodup_firsts (as : List α) : (firsts as).Nodup := by
  rw [firsts_eq_eraseDups]
  exact nodup_eraseDups as

end Firsts

end Muster.Wargear
