/-
  Capping: what the modifiers to a roll come to, and the views of it that are shown.

  1. **Program.**  The bonuses and the penalties to a roll are added up apart, zeros in neither.  The
     sum of both is held within the bound of the roll, if it has one, and every modifier is marked
     with whether that made a difference.  The breakdown lists bonuses and penalties for display.

  2. **Specification.**  `CappingLaw` and `BreakdownLaw` speak of one number, the sum of ALL values:
     what the net is of it, when a roll counts as capped, and that the two lists of the breakdown
     add up to it again.

  3. **The crux** (`total_bonuses_add_penalties`) is that the zeros, which are in neither list, are
     not missed.

  4. **Marks and order do not count.**  The sum depends on the values only, and capping changes no
     value.  So permuted modifiers have the same net, and what was capped is capped to itself
     (`cap_cap`), whatever marks it came with.
-/
import Mathlib
import Muster.Combat.Capping

namespace Muster.Combat

/-! ## Sums -/

theorem total_eq_sum (ms : List Modifier) : total ms = (ms.map Modifier.value).sum := by
  induction ms with
  | nil => rfl
  | cons m ms ih => rw [total, ih, List.map_cons, List.sum_cons]

theorem bonuses_cons (m : Modifier) (ms : List Modifier) :
    bonuses (m :: ms) = if 0 < m.value then m :: bonuses ms else bonuses ms := by
  unfold bonuses
  rw [List.filter_cons]
  simp only [gt_iff_lt, decide_eq_true_eq]

theorem penalties_cons (m : Modifier) (ms : List Modifier) :
    penalties (m :: ms) = if m.value < 0 then m :: penalties ms else penalties ms := by
  unfold penalties
  rw [List.filter_cons]
  simp only [decide_eq_true_eq]

/-- **The zeros are not missed**: the bonuses and the penalties come to the sum of all modifiers. -/
theorem total_bonuses_add_penalties (ms : List Modifier) :
    total (bonuses ms) + total (penalties ms) = total ms := by
  induction ms with
  | nil => rfl
  | cons m ms ih =>
    rw [bonuses_cons, penalties_cons, total, ← ih]
    -- a modifier is in one of the lists, or it is zero and in none
    rcases Int.lt_trichotomy m.value 0 with hpenalty | hzero | hbonus
    · rw [if_neg (by omega), if_pos hpenalty, total]
      omega
    · rw [if_neg (by omega), if_neg (by omega)]
      omega
    · rw [if_pos hbonus, if_neg (by omega), total]
      omega

/-! ## The net -/

/-- A number held within the bound of a roll, if there is one. -/
def Roll.held (settings : Settings) (r : Roll) (n : Int) : Int :=
  match r with
  | .hit | .wound => clamp (-settings.hitWoundCap) settings.hitWoundCap n
  | .save => n

theorem Roll.held_eq (settings : Settings) (r : Roll) (n : Int) :
    r.held settings n =
      if r = .save then n else max (-(settings.hitWoundCap : Int)) (min settings.hitWoundCap n) := by
  cases r <;> rfl

theorem net_cap (settings : Settings) (r : Roll) (ms : List Modifier) :
    (cap settings r ms).net = r.held settings (ms.map Modifier.value).sum := by
  rw [← total_eq_sum, ← total_bonuses_add_penalties]
  cases r <;> rfl

/-- The sum is beyond the bound exactly if holding it changes it. -/
theorem Roll.held_ne_iff (settings : Settings) (r : Roll) (n : Int) :
    r.held settings n ≠ n ↔ r ≠ .save ∧ (settings.hitWoundCap : Int) < |n| := by
  rw [Roll.held_eq]
  by_cases hsave : r = .save
  · rw [if_pos hsave]
    exact ⟨fun h => absurd rfl h, fun h => absurd hsave h.1⟩
  · rw [if_neg hsave]
    have hbound : (0 : Int) ≤ settings.hitWoundCap := Int.natCast_nonneg _
    rcases abs_cases n with ⟨habs, _⟩ | ⟨habs, _⟩
    · rw [habs]
      refine ⟨fun h => ⟨hsave, ?_⟩, fun h => ?_⟩ <;> omega
    · rw [habs]
      refine ⟨fun h => ⟨hsave, ?_⟩, fun h => ?_⟩ <;> omega

/-! ## Marks -/

attribute [ext] Capped

/-- A roll counts as capped if holding the sum changes it. -/
theorem wasCapped_cap (settings : Settings) (r : Roll) (ms : List Modifier) :
    (cap settings r ms).wasCapped = true ↔
      r.held settings (ms.map Modifier.value).sum ≠ (ms.map Modifier.value).sum := by
  rw [← total_eq_sum, ← total_bonuses_add_penalties]
  cases r with
  | save => exact ⟨fun h => absurd h Bool.false_ne_true, fun h => absurd rfl h⟩
  | hit => exact bne_iff_ne
  | wound => exact bne_iff_ne

/-- Capping marks all modifiers alike, unless the roll has no bound, and leaves the rest as it is. -/
theorem modifiers_cap (settings : Settings) (r : Roll) (ms : List Modifier) :
    (cap settings r ms).modifiers = ms.map fun m =>
      { m with isCapped := if r = .save then m.isCapped else (cap settings r ms).wasCapped } := by
  cases r with
  | save => exact (List.map_id' ms).symm
  | hit => rfl
  | wound => rfl

/-- Capping marks modifiers and changes no value. -/
theorem map_value_cap (settings : Settings) (r : Roll) (ms : List Modifier) :
    (cap settings r ms).modifiers.map Modifier.value = ms.map Modifier.value := by
  rw [modifiers_cap, List.map_map]
  rfl

/-- Modifiers that come to the same sum are capped alike, whatever marks they bear. -/
theorem net_cap_congr (settings : Settings) (r : Roll) {ms ns : List Modifier}
    (h : (ms.map Modifier.value).sum = (ns.map Modifier.value).sum) :
    (cap settings r ms).net = (cap settings r ns).net ∧
      (cap settings r ms).wasCapped = (cap settings r ns).wasCapped := by
  refine ⟨by rw [net_cap, net_cap, h], ?_⟩
  rw [Bool.eq_iff_iff, wasCapped_cap, wasCapped_cap, h]

/-- Modifiers in another order are capped alike. -/
theorem perm_cap (settings : Settings) (r : Roll) {ms ns : List Modifier} (h : ms.Perm ns) :
    (cap settings r ms).modifiers.Perm (cap settings r ns).modifiers := by
  obtain ⟨_, hcapped⟩ := net_cap_congr settings r (h.map Modifier.value).sum_eq
  rw [modifiers_cap settings r ms, modifiers_cap settings r ns, hcapped]
  exact h.map _

/-- **What was capped is capped to itself.** -/
theorem cap_cap (settings : Settings) (r : Roll) (ms : List Modifier) :
    cap settings r (cap settings r ms).modifiers = cap settings r ms := by
  have hsum : ((cap settings r ms).modifiers.map Modifier.value).sum
      = (ms.map Modifier.value).sum := by rw [map_value_cap]
  obtain ⟨hnet, hcapped⟩ := net_cap_congr settings r hsum
  have hmodifiers : (cap settings r (cap settings r ms).modifiers).modifiers
      = (cap settings r ms).modifiers := by
    rw [modifiers_cap, hcapped, modifiers_cap settings r ms, List.map_map]
    refine List.map_congr_left fun m _ => ?_
    show Modifier.mk _ _ _ _ = Modifier.mk _ _ _ _
    by_cases hsave : r = .save
    · simp only [if_pos hsave]
    · simp only [if_neg hsave]
  exact Capped.ext hmodifiers hnet hcapped

/-- **Two ways to one net.**  What is not taken out of capped modifiers is capped anew; if nothing is
    taken out, the net is there already. -/
theorem net_cap_kept (settings : Settings) (r : Roll) (ms : List Modifier) (p : Modifier → Bool) :
    (if ((cap settings r ms).modifiers.filter p).isEmpty then (cap settings r ms).net
      else (cap settings r ((cap settings r ms).modifiers.filter (!p ·))).net)
      = (cap settings r ((cap settings r ms).modifiers.filter (!p ·))).net := by
  split
  · rename_i hempty
    have hnone := List.filter_eq_nil_iff.mp (List.isEmpty_iff.mp hempty)
    have hkept : (cap settings r ms).modifiers.filter (!p ·) = (cap settings r ms).modifiers :=
      List.filter_eq_self.mpr fun m hm => by simpa using hnone m hm
    rw [hkept, cap_cap]
  · rfl

/-! ## The laws -/

/-- What capping makes of the modifiers to a roll, told by the sum of their values. -/
structure CappingLaw (settings : Settings) (r : Roll) (ms : List Modifier) (c : Capped) : Prop where
  /-- The net is the sum held within the bound, and for a save the sum itself. -/
  net : c.net = if r = .save then (ms.map Modifier.value).sum
    else max (-(settings.hitWoundCap : Int)) (min settings.hitWoundCap (ms.map Modifier.value).sum)
  /-- A roll is capped if it has a bound and the sum is further from zero. -/
  wasCapped : c.wasCapped = true ↔
    (r = .hit ∨ r = .wound) ∧ (settings.hitWoundCap : Int) < |(ms.map Modifier.value).sum|
  /-- The modifiers stay in order and keep all but the mark, which for a save they keep as well. -/
  modifiers : c.modifiers = ms.map fun m =>
    { m with isCapped := if r = .save then m.isCapped else c.wasCapped }

/-- What the breakdown of capped modifiers shows. -/
structure BreakdownLaw (ms : List Modifier) (c : Capped) (d : Breakdown) : Prop where
  bonuses : d.bonuses = (ms.filter fun m => 0 < m.value).map fun m => (m.source.name, m.value)
  penalties : d.penalties = (ms.filter fun m => m.value < 0).map fun m => (m.source.name, m.value)
  /-- The two lists come to the sum before capping. -/
  sum : (d.bonuses.map Prod.snd).sum + (d.penalties.map Prod.snd).sum = (ms.map Modifier.value).sum
  net : d.net = c.net
  /-- The net is shown once more exactly if the sum was capped. -/
  cappedTo : ∀ n, d.cappedTo = some n ↔ c.wasCapped = true ∧ n = c.net

theorem cappingLaw_cap (settings : Settings) (r : Roll) (ms : List Modifier) :
    CappingLaw settings r ms (cap settings r ms) where
  net := by rw [net_cap, Roll.held_eq]
  wasCapped := by
    have hbound : (r = .hit ∨ r = .wound) ↔ r ≠ .save := by cases r <;> decide
    rw [wasCapped_cap, Roll.held_ne_iff, hbound]
  modifiers := modifiers_cap settings r ms

theorem breakdownLaw_breakdown (settings : Settings) (r : Roll) (ms : List Modifier) :
    BreakdownLaw ms (cap settings r ms) (breakdown settings r ms) where
  bonuses := rfl
  penalties := rfl
  sum := by
    show (((bonuses ms).map Modifier.entry).map Prod.snd).sum
      + (((penalties ms).map Modifier.entry).map Prod.snd).sum = _
    have hentries (ns : List Modifier) :
        ((ns.map Modifier.entry).map Prod.snd).sum = total ns := by
      rw [total_eq_sum, List.map_map]
      rfl
    rw [hentries, hentries, total_bonuses_add_penalties, total_eq_sum]
  net := rfl
  cappedTo := by
    intro n
    show (if (cap settings r ms).wasCapped then some (cap settings r ms).net else none) = some n ↔ _
    split
    · rename_i hcapped
      rw [Option.some.injEq]
      exact ⟨fun h => ⟨hcapped, h.symm⟩, fun h => h.2.symm⟩
    · rename_i hcapped
      constructor
      · intro h
        cases h
      · intro h
        exact absurd h.1 hcapped

/-- **The capping law.**  Net, marks and breakdown of the modifiers to a roll agree on the sum of
    their values; the net does not depend on their order, and to cap once more changes nothing. -/
theorem cap_lawful (settings : Settings) (r : Roll) (ms : List Modifier) :
    CappingLaw settings r ms (cap settings r ms) ∧
    BreakdownLaw ms (cap settings r ms) (breakdown settings r ms) ∧
    (∀ ns : List Modifier, ms.Perm ns → (cap settings r ns).net = (cap settings r ms).net) ∧
    cap settings r (cap settings r ms).modifiers = cap settings r ms := by
  refine ⟨cappingLaw_cap settings r ms, breakdownLaw_breakdown settings r ms, ?_,
    cap_cap settings r ms⟩
  intro ns hperm
  exact (net_cap_congr settings r (hperm.map Modifier.value).sum_eq).1.symm

end Muster.Combat
