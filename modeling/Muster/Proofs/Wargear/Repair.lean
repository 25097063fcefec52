/-
  Repair: what the edits of a verdict make of a loadout.

  1. **Program.**  Of a loadout that is not valid, a verdict names the nearest candidate and two
     lists of edits: what the candidate holds and the loadout does not, and what the loadout holds
     and the candidate does not.  An item gets onto a list by membership, while validity is a
     question of counts.

  2. **Specification.**  `Verdict.repair` takes the extra items out of the loadout and puts the
     missing ones in, every occurrence counted.  The edits are sufficient if that gives the nearest
     candidate.

  3. **The crux** is the count of one item after the edits (`count_edited`): an item that both hold
     keeps the count it has in the loadout, and every other gets the count it has in the candidate.
     So the edits are sufficient exactly if the two hold what they share equally often.  They
     always are between lists without repetitions; against one bolter, a second bolter is no edit.
-/
import Mathlib
import Muster.Proofs.Wargear.Nearest

namespace Muster.Wargear

/-! ## The edits between a loadout and a candidate -/

/-- Two lists hold the items that they share equally often. -/
def SharesAlike (l c : List String) : Prop := ∀ a ∈ l, a ∈ c → l.count a = c.count a

instance (l c : List String) : Decidable (SharesAlike l c) :=
  inferInstanceAs (Decidable (∀ a ∈ l, a ∈ c → l.count a = c.count a))

theorem sharesAlike_of_nodup {l c : List String} (hl : l.Nodup) (hc : c.Nodup) :
    SharesAlike l c := by
  intro a hal hac
  rw [List.count_eq_one_of_mem hl hal, List.count_eq_one_of_mem hc hac]

theorem count_missing (l c : List String) (a : String) :
    (compareWith l c).missing.count a = if a ∈ l then 0 else c.count a := by
  show (c.filter fun b => !l.contains b).count a = _
  by_cases ha : a ∈ l
  · rw [if_pos ha, List.count_eq_zero]
    intro hmem
    simp [ha] at hmem
  · rw [if_neg ha, List.count_filter (by simpa using ha)]

/-- What is extra in a loadout is what is missing in the candidate, seen from the other side. -/
theorem count_extra (l c : List String) (a : String) :
    (compareWith l c).extra.count a = if a ∈ c then 0 else l.count a :=
  count_missing c l a

/-- **One item after the edits.**  Shared items keep their count, the others get that of the
    candidate. -/
theorem count_edited (l c : List String) (a : String) :
    ((l : Multiset String) - (compareWith l c).extra + (compareWith l c).missing).count a
      = if a ∈ l ∧ a ∈ c then l.count a else c.count a := by
  rw [Multiset.count_add, Multiset.count_sub, Multiset.coe_count, Multiset.coe_count,
    Multiset.coe_count, count_extra, count_missing]
  by_cases hl : a ∈ l
  · by_cases hc : a ∈ c
    · simp [hl, hc]
    · have hzero : c.count a = 0 := List.count_eq_zero.mpr hc
      simp [hl, hc, hzero]
  · have hzero : l.count a = 0 := List.count_eq_zero.mpr hl
    simp [hl, hzero]

/-- **When the edits are sufficient.** -/
theorem edited_eq_iff {l c : List String} :
    (l : Multiset String) - (compareWith l c).extra + (compareWith l c).missing = c
      ↔ SharesAlike l c := by
  rw [Multiset.ext]
  constructor
  · intro h a hl hc
    have ha := h a
    rw [count_edited, if_pos ⟨hl, hc⟩, Multiset.coe_count] at ha
    exact ha
  · intro h a
    rw [count_edited, Multiset.coe_count]
    split
    · rename_i hboth
      exact h a hboth.1 hboth.2
    · rfl

/-! ## The edits of a verdict -/

/-- The loadout with the extra items taken out and the missing ones put in. -/
def Verdict.repair (v : Verdict) (loadout : List String) : Multiset String :=
  (loadout : Multiset String) - v.extraItems + v.missingItems

/-- A loadout that is not valid is no permutation of the candidate that it is compared with. -/
theorem verdict_of_invalid {modelType : String} {loadout : List String} {gs : List Group}
    (hinvalid : (validateLoadout modelType loadout gs).isValid = false) :
    ∃ c ∈ offered modelType gs, ¬ loadout.Perm c ∧ ∃ g,
      validateLoadout modelType loadout gs
        = ⟨false, some g, some c, (compareWith loadout c).missing, (compareWith loadout c).extra⟩ := by
  obtain ⟨hno, c, g, hc, hverdict⟩ := verdict_of_not_valid hinvalid
  exact ⟨c, hc.mem, hno c hc.mem, g, hverdict⟩

/-- **What the reported edits come to.**  A loadout that is not valid is compared with a candidate.
    Taking out the extra items and putting in the missing ones gives that candidate exactly if the
    two hold what they share equally often; and then there is something to take out or put in. -/
theorem repair_eq_closestMatch_iff {modelType : String} {loadout : List String} {gs : List Group}
    (hinvalid : (validateLoadout modelType loadout gs).isValid = false) :
    ∃ c ∈ offered modelType gs, (validateLoadout modelType loadout gs).closestMatch = some c ∧
      ((validateLoadout modelType loadout gs).repair loadout = c ↔ SharesAlike loadout c) ∧
      (SharesAlike loadout c →
        (validateLoadout modelType loadout gs).missingItems ≠ [] ∨
        (validateLoadout modelType loadout gs).extraItems ≠ []) := by
  obtain ⟨c, hc, hperm, g, hverdict⟩ := verdict_of_invalid hinvalid
  rw [hverdict]
  refine ⟨c, hc, rfl, edited_eq_iff, fun halike => ?_⟩
  by_contra hempty
  obtain ⟨hmissing, hextra⟩ := not_or.mp hempty
  have hmissing : (compareWith loadout c).missing = [] := not_not.mp hmissing
  have hextra : (compareWith loadout c).extra = [] := not_not.mp hextra
  -- without edits the loadout would itself be the candidate
  have hsame := edited_eq_iff.mpr halike
  rw [hmissing, hextra, Multiset.coe_nil, tsub_zero, add_zero, Multiset.coe_eq_coe] at hsame
  exact hperm hsame

/-- Between lists without repetitions the reported edits are always sufficient. -/
theorem repair_eq_closestMatch_of_nodup {modelType : String} {loadout : List String}
    {gs : List Group} (hinvalid : (validateLoadout modelType loadout gs).isValid = false)
    (hloadout : loadout.Nodup) (hoffered : ∀ c ∈ offered modelType gs, c.Nodup) :
    ∃ c, (validateLoadout modelType loadout gs).closestMatch = some c ∧
      (validateLoadout modelType loadout gs).repair loadout = c := by
  obtain ⟨c, hc, _, g, hverdict⟩ := verdict_of_invalid hinvalid
  rw [hverdict]
  exact ⟨c, rfl, edited_eq_iff.mpr (sharesAlike_of_nodup hloadout (hoffered c hc))⟩

/-- A model with a pistol too many and without its shield. -/
theorem repair_axe :
    let v := validateLoadout "Marine" ["pistol", "axe"]
      [⟨anyModel, [["bolter"], ["axe", "shield"]], none⟩]
    v.isValid = false ∧ v.repair ["pistol", "axe"] = (["axe", "shield"] : List String) := by
  intro v
  have hinvalid : v.isValid = false := by decide +kernel
  obtain ⟨c, _, hclosest, hrepair, _⟩ := repair_eq_closestMatch_iff hinvalid
  have hnearest : v.closestMatch = some ["axe", "shield"] := by decide +kernel
  obtain rfl : c = ["axe", "shield"] := Option.some.inj (hclosest.symm.trans hnearest)
  exact ⟨hinvalid, hrepair.mpr (by decide)⟩

/-- Where one bolter is offered, two are not valid; but there is nothing to take out and nothing to
    put in. -/
theorem no_edits_second_bolter :
    let v := validateLoadout "Marine" ["bolter", "bolter"] [⟨anyModel, [["bolter"]], none⟩]
    v.isValid = false ∧ v.closestMatch = some ["bolter"] ∧ v.missingItems = [] ∧
      v.extraItems = [] ∧ v.repair ["bolter", "bolter"] ≠ (["bolter"] : List String) := by
  decide +kernel

end Muster.Wargear
