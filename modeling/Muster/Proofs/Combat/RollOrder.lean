/-
  Roll targets in order: what makes a roll harder, and what makes it easier.

  1. **Program.**  Three calculations turn characteristics and a net modifier into the number that a
     die must reach.  Each is a case distinction or an exception, followed by a clamp and a minimum.

  2. **Specification.**  A target never moves the wrong way: more strength, a higher net modifier,
     cover or a better invulnerable save never make a roll harder; more toughness, a worse skill or
     save, more penetration or a higher critical threshold never make it easier.  Who wounds easily
     is hard to wound: the two targets add up to 8.

  3. **The crux** is where two cases meet.  Clamps and minima keep an order by themselves.  Cover
     does nothing for a save of 3 or better against no penetration, so one more point of either
     brings it into force, and what it then takes off is just that point (`coveredSave_le`).
-/
import Mathlib
import Muster.Proofs.Combat.RollTarget

namespace Muster.Combat

/-! ## Wounds -/

/-- **Who wounds on a high number is wounded on a low one.** -/
theorem baseWoundTarget_add_swap {strength toughness : Int} (hstrength : 1 ≤ strength)
    (htoughness : 1 ≤ toughness) :
    baseWoundTarget strength toughness + baseWoundTarget toughness strength = 8 := by
  unfold baseWoundTarget
  rcases lt_trichotomy strength toughness with h | h | h
  · -- twice the strength decides on both sides in the same way
    by_cases hdouble : 2 * strength ≤ toughness
    · rw [if_neg (by omega), if_neg (by omega), if_neg (by omega), if_pos hdouble,
        if_pos (by omega)]
      rfl
    · rw [if_neg (by omega), if_neg (by omega), if_neg (by omega), if_neg hdouble,
        if_neg (by omega), if_pos h]
      rfl
  · subst h
    rw [if_neg (by omega), if_neg (by omega), if_pos rfl]
    rfl
  · by_cases hdouble : 2 * toughness ≤ strength
    · rw [if_pos hdouble, if_neg (by omega), if_neg (by omega), if_neg (by omega),
        if_pos hdouble]
      rfl
    · rw [if_neg hdouble, if_pos h, if_neg (by omega), if_neg (by omega), if_neg (by omega),
        if_neg (by omega)]
      rfl

/-- More strength against less toughness never needs more. -/
theorem baseWoundTarget_le {strength strength' toughness toughness' : Int}
    (hstrength : strength ≤ strength') (htoughness : toughness' ≤ toughness) :
    baseWoundTarget strength' toughness' ≤ baseWoundTarget strength toughness := by
  unfold baseWoundTarget
  split_ifs <;> omega

/-! ## Clamps -/

theorem clamp_le_clamp {n n' : Int} (low high : Int) (h : n ≤ n') :
    clamp low high n ≤ clamp low high n' := by
  unfold clamp
  omega

/-- A hit or a wound target follows the number that is clamped and the threshold. -/
theorem min_clamp_le {n n' critical critical' : Int} (h : n ≤ n') (hcritical : critical ≤ critical') :
    min (clamp 2 6 n) critical ≤ min (clamp 2 6 n') critical' :=
  min_le_min (clamp_le_clamp 2 6 h) hcritical

theorem hitTarget_le {skill skill' net net' critical critical' : Int} (hskill : skill ≤ skill')
    (hnet : net' ≤ net) (hcritical : critical ≤ critical') :
    hitTarget skill net critical ≤ hitTarget skill' net' critical' :=
  min_clamp_le (by omega) hcritical

theorem woundTarget_le {strength strength' toughness toughness' net net' critical critical' : Int}
    (hstrength : strength' ≤ strength) (htoughness : toughness ≤ toughness') (hnet : net' ≤ net)
    (hcritical : critical ≤ critical') :
    woundTarget strength toughness net critical ≤ woundTarget strength' toughness' net' critical' := by
  have hbase := baseWoundTarget_le hstrength htoughness
  exact min_clamp_le (by omega) hcritical

/-! ## Saves -/

section Saves

variable {save save' ap ap' net net' : Int} {cover cover' : Bool} {ward ward' : Option Int}

/-- **Where cover comes into force, it takes off what brought it there.**  A worse save against more
    penetration never needs less, whether or not cover counts for either. -/
theorem coveredSave_le (hsave : save ≤ save') (hap : ap.natAbs ≤ ap'.natAbs)
    (hcover : cover' = true → cover = true) :
    save + ap.natAbs - (if coverCounts save ap cover then 1 else 0)
      ≤ save' + ap'.natAbs - (if coverCounts save' ap' cover' then 1 else 0) := by
  by_cases hcounts' : coverCounts save' ap' cover' = true
  · by_cases hcounts : coverCounts save ap cover = true
    · rw [if_pos hcounts, if_pos hcounts']
      omega
    · -- cover has come into force, so the save or the penetration has grown
      rw [coverCounts, Bool.and_eq_true] at hcounts'
      obtain ⟨hin, hexcept'⟩ := hcounts'
      have hexcept : save ≤ 3 ∧ ap = 0 := by
        rw [coverCounts, hcover hin, Bool.true_and] at hcounts
        simpa using hcounts
      have hgrown : 3 < save' ∨ ap' ≠ 0 := by simpa using hexcept'
      rw [if_neg hcounts]
      have hone : (if coverCounts save' ap' cover' = true then (1 : Int) else 0) ≤ 1 := by
        split_ifs <;> decide
      omega
  · rw [if_neg hcounts']
    have hzero : 0 ≤ (if coverCounts save ap cover = true then (1 : Int) else 0) := by
      split_ifs <;> decide
    omega

theorem armourSave_le (hsave : save ≤ save') (hap : ap.natAbs ≤ ap'.natAbs) (hnet : net' ≤ net)
    (hcover : cover' = true → cover = true) :
    armourSave save ap net (coverCounts save ap cover)
      ≤ armourSave save' ap' net' (coverCounts save' ap' cover') := by
  have hcovered := coveredSave_le hsave hap hcover
  exact clamp_le_clamp 2 7 (by omega)

/-- Without an invulnerable save the armour is what is used. -/
theorem target_saveTarget_none (save ap net : Int) (cover : Bool) :
    (saveTarget save ap net none cover).target
      = armourSave save ap net (coverCounts save ap cover) := rfl

/-- **The better of two saves is used**, and the armour where they are equal. -/
theorem saveTarget_some (save ap net n : Int) (cover : Bool) :
    (saveTarget save ap net (some n) cover).target
        = min (saveTarget save ap net none cover).target n ∧
      ((saveTarget save ap net (some n) cover).invulnerable = true
        ↔ n < (saveTarget save ap net none cover).target) := by
  rw [target_saveTarget_none, saveTarget]
  generalize armourSave save ap net (coverCounts save ap cover) = armour
  split
  · rename_i h
    exact ⟨(min_eq_right h.le).symm, iff_of_true rfl h⟩
  · rename_i h
    exact ⟨(min_eq_left (not_lt.mp h)).symm, iff_of_false Bool.false_ne_true h⟩

/-- Whether an invulnerable save, or none, is at least as good as another one, or none. -/
def AtLeastAsGood (ward ward' : Option Int) : Prop :=
  ∀ n', ward' = some n' → ∃ n, ward = some n ∧ n ≤ n'

theorem saveTarget_le (hsave : save ≤ save') (hap : ap.natAbs ≤ ap'.natAbs) (hnet : net' ≤ net)
    (hward : AtLeastAsGood ward ward') (hcover : cover' = true → cover = true) :
    (saveTarget save ap net ward cover).target
      ≤ (saveTarget save' ap' net' ward' cover').target := by
  have harmour : (saveTarget save ap net none cover).target
      ≤ (saveTarget save' ap' net' none cover').target := armourSave_le hsave hap hnet hcover
  have hopen : ∀ w, (saveTarget save ap net w cover).target
      ≤ (saveTarget save ap net none cover).target := by
    intro w
    cases w with
    | none => exact le_refl _
    | some n => exact (saveTarget_some save ap net n cover).1 ▸ min_le_left _ _
  cases ward' with
  | none => exact (hopen ward).trans harmour
  | some n' =>
    obtain ⟨n, rfl, hn⟩ := hward n' rfl
    rw [(saveTarget_some save ap net n cover).1, (saveTarget_some save' ap' net' n' cover').1]
    exact min_le_min harmour hn

end Saves

/-! ## All rolls -/

/-- **Roll targets are monotone.**  The wound rolls of two sides against each other add up to 8.  A
    hit and a wound target lie between 2 and 6, a save target between 2 and 7; the save used is the
    better one of the armour and the invulnerable save, which counts as used if it is strictly
    better.  And whatever is better for the roller never raises a target. -/
theorem targets_monotone :
    (∀ strength toughness : Int, 1 ≤ strength → 1 ≤ toughness →
      baseWoundTarget strength toughness + baseWoundTarget toughness strength = 8) ∧
    (∀ strength strength' toughness toughness' : Int,
      strength' ≤ strength → toughness ≤ toughness' →
      baseWoundTarget strength toughness ≤ baseWoundTarget strength' toughness') ∧
    (∀ skill net critical : Int, 2 ≤ critical ∧ critical ≤ 6 →
      2 ≤ hitTarget skill net critical ∧ hitTarget skill net critical ≤ 6) ∧
    (∀ strength toughness net critical : Int, 2 ≤ critical ∧ critical ≤ 6 →
      2 ≤ woundTarget strength toughness net critical ∧
        woundTarget strength toughness net critical ≤ 6) ∧
    (∀ skill skill' net net' critical critical' : Int,
      skill ≤ skill' → net' ≤ net → critical ≤ critical' →
      hitTarget skill net critical ≤ hitTarget skill' net' critical') ∧
    (∀ strength strength' toughness toughness' net net' critical critical' : Int,
      strength' ≤ strength → toughness ≤ toughness' → net' ≤ net → critical ≤ critical' →
      woundTarget strength toughness net critical
        ≤ woundTarget strength' toughness' net' critical') ∧
    (∀ (save ap net : Int) (ward : Option Int) (cover : Bool),
      (∀ n, ward = some n → 2 ≤ n) →
      2 ≤ (saveTarget save ap net ward cover).target ∧
        (saveTarget save ap net ward cover).target ≤ 7) ∧
    (∀ (save ap net : Int) (cover : Bool),
      (saveTarget save ap net none cover).invulnerable = false ∧
      ∀ n, (saveTarget save ap net (some n) cover).target
          = min (saveTarget save ap net none cover).target n ∧
        ((saveTarget save ap net (some n) cover).invulnerable = true
          ↔ n < (saveTarget save ap net none cover).target)) ∧
    (∀ (save save' ap ap' net net' : Int) (ward ward' : Option Int) (cover cover' : Bool),
      save ≤ save' → ap.natAbs ≤ ap'.natAbs → net' ≤ net → AtLeastAsGood ward ward' →
      (cover' = true → cover = true) →
      (saveTarget save ap net ward cover).target
        ≤ (saveTarget save' ap' net' ward' cover').target) := by
  refine ⟨?_, ?_, ?_, ?_, ?_, ?_, ?_, ?_, ?_⟩
  · intro strength toughness hstrength htoughness
    exact baseWoundTarget_add_swap hstrength htoughness
  · intro strength strength' toughness toughness' hstrength htoughness
    exact baseWoundTarget_le hstrength htoughness
  · intro skill net critical hcritical
    exact min_clamp_mem hcritical _
  · intro strength toughness net critical hcritical
    exact min_clamp_mem hcritical _
  · intro skill skill' net net' critical critical' hskill hnet hcritical
    exact hitTarget_le hskill hnet hcritical
  · intro strength strength' toughness toughness' net net' critical critical' hstrength htoughness
      hnet hcritical
    exact woundTarget_le hstrength htoughness hnet hcritical
  · intro save ap net ward cover hward
    exact (saveTarget_mem_iff save ap net ward cover).mpr hward
  · intro save ap net cover
    exact ⟨rfl, fun n => saveTarget_some save ap net n cover⟩
  · intro save save' ap ap' net net' ward ward' cover cover' hsave hap hnet hward hcover
    exact saveTarget_le hsave hap hnet hward hcover

/-- Strength 4 against toughness 5, and a save of 3 in cover before and after one point of
    penetration brings the cover into force. -/
theorem targets_monotone_guard :
    baseWoundTarget 4 5 + baseWoundTarget 5 4 = 8 ∧
    (2 ≤ hitTarget 3 (-1) 6 ∧ hitTarget 3 (-1) 6 ≤ 6) ∧
    woundTarget 5 4 1 6 ≤ woundTarget 4 5 0 6 ∧
    (saveTarget 3 0 0 (some 4) true).target ≤ (saveTarget 3 (-1) 0 (some 4) true).target := by
  obtain ⟨hsum, _, hhit, _, _, hwound, _, _, hsave⟩ := targets_monotone
  have hsame : AtLeastAsGood (some 4) (some 4) := fun n hn => ⟨n, hn, le_refl n⟩
  exact ⟨hsum 4 5 (by decide) (by decide), hhit 3 (-1) 6 (by decide),
    hwound 5 4 4 5 1 0 6 6 (by decide) (by decide) (by decide) (by decide),
    hsave 3 3 0 (-1) 0 0 (some 4) (some 4) true true (by decide) (by decide) (by decide) hsame id⟩

end Muster.Combat
