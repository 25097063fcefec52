/-
  Stages: one run over the effects of both combatants, told apart side by side.

  1. **Program.**  The active effects that have a stage are sorted by it, each put in behind all of
     the same or an earlier stage, and the sorted list is gone through once: a change to the attacker
     is made to the weapon, a change to the defender to the target.

  2. **Specification.**  `changes side active`: what the effects on one side set, in their order, and
     then what they raise.  `changedWeapon` and `changedTarget` are the runs of these changes over
     one profile each, without any sorting.

  3. **Stability.**  The sorted list is made up of its stages, each as a filter of the effects as
     they came (`staged_eq`).  The step is an effect put into a list made up of stages
     (`insertStaged_ofStages`), by induction on the stages.

  4. **Two runs in one.**  A change to one side neither sees nor moves the other's profile, so the
     run over both comes out exactly where the two runs apart do (`foldlM_staged_eq_ok`).  Success
     alone is compared: of two errors, the sorting decides which one is told.
-/
import Mathlib
import Muster.Combat.Resolution
import Muster.Proofs.Except

namespace Muster.Combat

open Text

/-! ## Sorting by stages -/

/-- Active effects of some stages, stage by stage and in order within each. -/
def ofStages (stages : List Nat) (active : List Active) : List Active :=
  stages.flatMap fun n => active.filter fun a => a.effect.stage == n

theorem ofStages_cons (n : Nat) (ns : List Nat) (active : List Active) :
    ofStages (n :: ns) active = (active.filter fun a => a.effect.stage == n) ++ ofStages ns active :=
  List.flatMap_cons

theorem stage_mem_of_mem_ofStages {stages : List Nat} {active : List Active} {a : Active}
    (h : a ∈ ofStages stages active) : a.effect.stage ∈ stages := by
  obtain ⟨n, hn, ha⟩ := List.mem_flatMap.mp h
  exact beq_iff_eq.mp (List.mem_filter.mp ha).2 ▸ hn

/-- What is put in goes behind everything that is not of a later stage. -/
theorem insertStaged_append {a : Active} (bs : List Active) : ∀ {as : List Active},
    (∀ b ∈ as, b.effect.stage ≤ a.effect.stage) →
    insertStaged a (as ++ bs) = as ++ insertStaged a bs
  | [], _ => rfl
  | b :: as, h => by
    obtain ⟨hb, has⟩ := List.forall_mem_cons.mp h
    rw [List.cons_append, insertStaged, if_neg hb.not_gt, insertStaged_append bs has,
      List.cons_append]

/-- It goes before everything that is of a later stage. -/
theorem insertStaged_of_lt {a : Active} : ∀ {bs : List Active},
    (∀ b ∈ bs, a.effect.stage < b.effect.stage) → insertStaged a bs = a :: bs
  | [], _ => rfl
  | b :: bs, h => by rw [insertStaged, if_pos (h b List.mem_cons_self)]

theorem filter_stage_concat_of_ne (active : List Active) {a : Active} {n : Nat}
    (h : a.effect.stage ≠ n) :
    (active ++ [a]).filter (fun b => b.effect.stage == n)
      = active.filter fun b => b.effect.stage == n := by
  rw [List.filter_append, List.filter_cons_of_neg (by simpa using h), List.filter_nil,
    List.append_nil]

theorem ofStages_concat_of_notMem (active : List Active) {a : Active} {stages : List Nat}
    (h : a.effect.stage ∉ stages) : ofStages stages (active ++ [a]) = ofStages stages active := by
  refine List.flatMap_congr fun n hn => filter_stage_concat_of_ne active ?_
  rintro rfl
  exact h hn

/-- **The step**: an effect that is put among some stages is the last one of its stage. -/
theorem insertStaged_ofStages {a : Active} (active : List Active) : ∀ {stages : List Nat},
    stages.Pairwise (· < ·) → a.effect.stage ∈ stages →
    insertStaged a (ofStages stages active) = ofStages stages (active ++ [a])
  | [], _, h => absurd h List.not_mem_nil
  | n :: ns, hsorted, hmem => by
    obtain ⟨hlater, hsorted⟩ := List.pairwise_cons.mp hsorted
    have hfirst : ∀ b ∈ active.filter (fun b => b.effect.stage == n), b.effect.stage = n :=
      fun b hb => beq_iff_eq.mp (List.mem_filter.mp hb).2
    rw [ofStages_cons, ofStages_cons]
    rcases List.mem_cons.mp hmem with rfl | hmem
    · -- it closes the first stage, and those behind it stay as they are
      have hrest : ∀ b ∈ ofStages ns active, a.effect.stage < b.effect.stage :=
        fun b hb => hlater _ (stage_mem_of_mem_ofStages hb)
      have hnot : a.effect.stage ∉ ns := fun h => Nat.lt_irrefl _ (hlater _ h)
      rw [insertStaged_append _ fun b hb => (hfirst b hb).le, insertStaged_of_lt hrest,
        ofStages_concat_of_notMem active hnot, List.filter_append, List.append_assoc]
      simp
    · have hlt : n < a.effect.stage := hlater _ hmem
      rw [insertStaged_append _ fun b hb => (hfirst b hb).trans_le hlt.le,
        insertStaged_ofStages active hsorted hmem, filter_stage_concat_of_ne active hlt.ne']

theorem stage_mem_of_ne_zero {e : Effect} (h : e.stage ≠ 0) : e.stage ∈ [1, 2, 3, 4] := by
  cases e <;> simp_all [Effect.stage]

/-- **Sorting by stages is stable**: stage by stage it leaves the effects in their order. -/
theorem staged_eq (active : List Active) : staged active = ofStages [1, 2, 3, 4] active := by
  induction active using List.reverseRecOn with
  | nil => rfl
  | append_singleton active a ih =>
    rw [staged, List.filter_append, List.foldl_append]
    rw [staged] at ih
    rw [ih]
    by_cases hstage : a.effect.stage = 0
    · rw [List.filter_cons_of_neg (by simp [hstage])]
      exact (ofStages_concat_of_notMem active (by simp [hstage])).symm
    · rw [List.filter_cons_of_pos (by simpa using hstage)]
      exact insertStaged_ofStages active (by decide) (stage_mem_of_ne_zero hstage)

/-! ## The changes to a side -/

/-- The characteristic that an effect sets, with the value. -/
def Effect.setting? : Effect → Option (String × Change)
  | staticNumber c v => some (c, .set v)
  | _ => none

/-- The characteristic that an effect raises, with the number. -/
def Effect.raising? : Effect → Option (String × Change)
  | characteristicBonus c n => some (c, .raise n)
  | _ => none

/-- The changes that active effects make to a side: all settings, and then all raises. -/
def changes (side : Side) (active : List Active) : List (String × Change) :=
  let own := (active.filter fun a => a.recipient == side).map Active.effect
  own.filterMap Effect.setting? ++ own.filterMap Effect.raising?

/-- The weapon's profile after the changes to the attacker. -/
def changedWeapon (w : WeaponProfile) (active : List Active) : Except LongNumeral WeaponProfile :=
  (changes .attacker active).foldlM (fun w c => w.change c.1 c.2) w

/-- The target's profile after the changes to the defender. -/
def changedTarget (t : TargetProfile) (active : List Active) : Except LongNumeral TargetProfile :=
  (changes .defender active).foldlM (fun t c => t.change c.1 c.2) t

/-- The changes to a side that a run over effects meets. -/
def changesMet (side : Side) (as : List Active) : List (String × Change) :=
  as.filterMap fun a => if a.recipient == side then a.effect.change? else none

theorem changesMet_cons_of_eq {side : Side} {a : Active} {c : String × Change}
    (hchange : a.effect.change? = some c) (hside : a.recipient = side) (as : List Active) :
    changesMet side (a :: as) = c :: changesMet side as :=
  List.filterMap_cons_some (by rw [hside, if_pos (beq_self_eq_true side), hchange])

theorem changesMet_cons_of_ne {side : Side} {a : Active} (h : a.recipient ≠ side)
    (as : List Active) : changesMet side (a :: as) = changesMet side as :=
  List.filterMap_cons_none (if_neg (by simpa using h))

theorem changesMet_cons_of_none {a : Active} (h : a.effect.change? = none) (side : Side)
    (as : List Active) : changesMet side (a :: as) = changesMet side as :=
  List.filterMap_cons_none (by rw [h, ite_self])

/-- What the effects on a side make in one way, told effect by effect. -/
theorem filterMap_effects_on (side : Side) (change? : Effect → Option (String × Change))
    (active : List Active) :
    ((active.filter fun a => a.recipient == side).map Active.effect).filterMap change?
      = active.filterMap fun a => if a.recipient == side then change? a.effect else none := by
  rw [List.filterMap_map, List.filterMap_filter]
  rfl

/-- The changes to a side that are met at one stage. -/
theorem changesMet_filter_stage (side : Side) (n : Nat)
    (change? : Effect → Option (String × Change))
    (h : ∀ e : Effect, (if e.stage == n then e.change? else none) = change? e)
    (active : List Active) :
    changesMet side (active.filter fun a => a.effect.stage == n)
      = ((active.filter fun a => a.recipient == side).map Active.effect).filterMap change? := by
  rw [changesMet, List.filterMap_filter, filterMap_effects_on]
  refine List.filterMap_congr fun a _ => ?_
  rw [← h]
  split <;> split <;> rfl

/-- **A run in stages meets the settings of a side and then its raises.** -/
theorem changesMet_staged (side : Side) (active : List Active) :
    changesMet side (staged active) = changes side active := by
  have hnone (n : Nat) (h : ∀ e : Effect, (if e.stage == n then e.change? else none) = none) :
      changesMet side (active.filter fun a => a.effect.stage == n) = [] := by
    rw [changesMet_filter_stage side n (fun _ => none) h, List.filterMap_eq_nil_iff]
    exact fun _ _ => rfl
  have happend (as bs : List Active) :
      changesMet side (as ++ bs) = changesMet side as ++ changesMet side bs := List.filterMap_append
  rw [staged_eq]
  simp only [ofStages_cons, happend]
  rw [hnone 1 fun e => by cases e <;> rfl, hnone 2 fun e => by cases e <;> rfl,
    changesMet_filter_stage side 3 Effect.setting? fun e => by cases e <;> rfl,
    changesMet_filter_stage side 4 Effect.raising? fun e => by cases e <;> rfl]
  simp [changes, ofStages, changesMet]

/-! ## Two runs in one -/

/-- **A run over the effects of both sides** comes out where the runs of each side's changes do. -/
theorem foldlM_after_eq_ok : ∀ {as : List Active} {p p' : Profiles},
    as.foldlM Profiles.after p = .ok p' ↔
      (changesMet .attacker as).foldlM (fun w c => w.change c.1 c.2) p.weapon = .ok p'.weapon ∧
      (changesMet .defender as).foldlM (fun t c => t.change c.1 c.2) p.target = .ok p'.target
  | [], p, p' => by
    rw [List.foldlM_nil]
    constructor
    · intro h
      obtain rfl := Except.ok.inj h
      exact ⟨rfl, rfl⟩
    · rintro ⟨hweapon, htarget⟩
      exact congrArg Except.ok
        (congrArg₂ Profiles.mk (Except.ok.inj hweapon) (Except.ok.inj htarget))
  | a :: as, p, p' => by
    rw [List.foldlM_cons, bind_eq_ok, Profiles.after]
    cases hchange : a.effect.change? with
    | none =>
      rw [changesMet_cons_of_none hchange, changesMet_cons_of_none hchange, ← foldlM_after_eq_ok]
      constructor
      · rintro ⟨_, hp, h⟩
        exact Except.ok.inj hp ▸ h
      · exact fun h => ⟨p, rfl, h⟩
    | some c =>
      dsimp only
      cases hside : a.recipient with
      | attacker =>
        -- the weapon's run meets the change, the target's does not
        rw [changesMet_cons_of_eq hchange hside, changesMet_cons_of_ne (by simp [hside]),
          List.foldlM_cons, bind_eq_ok]
        constructor
        · rintro ⟨_, hchanged, h⟩
          obtain ⟨w, hw, rfl⟩ := map_eq_ok.mp hchanged
          obtain ⟨hweapon, htarget⟩ := foldlM_after_eq_ok.mp h
          exact ⟨⟨w, hw, hweapon⟩, htarget⟩
        · rintro ⟨⟨w, hw, hweapon⟩, htarget⟩
          exact ⟨_, map_eq_ok.mpr ⟨w, hw, rfl⟩, foldlM_after_eq_ok.mpr ⟨hweapon, htarget⟩⟩
      | defender =>
        -- and here the other way round
        rw [changesMet_cons_of_eq hchange hside, changesMet_cons_of_ne (by simp [hside]),
          List.foldlM_cons, bind_eq_ok]
        constructor
        · rintro ⟨_, hchanged, h⟩
          obtain ⟨t, ht, rfl⟩ := map_eq_ok.mp hchanged
          obtain ⟨hweapon, htarget⟩ := foldlM_after_eq_ok.mp h
          exact ⟨hweapon, t, ht, htarget⟩
        · rintro ⟨hweapon, t, ht, htarget⟩
          exact ⟨_, map_eq_ok.mpr ⟨t, ht, rfl⟩, foldlM_after_eq_ok.mpr ⟨hweapon, htarget⟩⟩

/-- The profiles that a run in stages makes are those of two runs without stages. -/
theorem foldlM_staged_eq_ok {active : List Active} {p p' : Profiles} :
    (staged active).foldlM Profiles.after p = .ok p' ↔
      changedWeapon p.weapon active = .ok p'.weapon ∧
      changedTarget p.target active = .ok p'.target := by
  rw [foldlM_after_eq_ok, changesMet_staged, changesMet_staged]
  rfl

end Muster.Combat
