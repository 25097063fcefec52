/-
  Selections: what "one of the following" and "up to K of the following" offer.

  1. **Specification.**  An option that states "up to K" allows K choices at once, any other one
     (`ParsedOption.atOnce`).  A `Selection` of an option is a list of DISTINCT POSITIONS in its
     choices, at least one and at most as many as the option allows at once.  Positions, not choices:
     a list may name the same choice twice, and then it may be taken twice.

  2. **Program.**  `choose k as` lists the sublists of length `k`, so it takes positions in
     ascending order only; `selections` joins the sizes 1 to K and refuses an option that offers too
     much.

  3. **The two agree.**  Every listed sublist is a selection, and every selection is a permutation
     of a listed sublist (`exists_selection`, `exists_mem_selections`).  The list has as many
     entries as binomial coefficients say (`length_selections`), and an option is refused exactly if
     its count or its number of selections is beyond the bound (`selections_error_iff`).
-/
import Mathlib
import Muster.Wargear.Expansion

namespace Muster.Wargear

/-! ## Counting -/

/-- The running product of `binomial` is a binomial coefficient at every step, so no division in it
    leaves a remainder. -/
theorem binomial_eq_choose (n k : Nat) : binomial n k = n.choose k := by
  induction k with
  | zero => rw [Nat.choose_zero_right]; rfl
  | succ k ih =>
    have hstep : binomial n (k + 1) = binomial n k * (n - k) / (k + 1) := by
      simp only [binomial, List.range_succ, List.foldl_append, List.foldl_cons, List.foldl_nil]
    rw [hstep, ih, ← Nat.choose_succ_right_eq, Nat.mul_div_cancel _ (Nat.succ_pos k)]

theorem selectionCount_eq_sum (n k : Nat) :
    selectionCount n k = ∑ i ∈ Finset.range k, n.choose (i + 1) := by
  induction k with
  | zero => rfl
  | succ k ih => rw [selectionCount, ih, binomial_eq_choose, Finset.sum_range_succ]

/-- Sizes beyond the number of choices add nothing. -/
theorem selectionCount_min (n k : Nat) : selectionCount n (min k n) = selectionCount n k := by
  rcases Nat.le_total k n with h | h
  · rw [Nat.min_eq_left h]
  · rw [Nat.min_eq_right h]
    induction k, h using Nat.le_induction with
    | base => rfl
    | succ k hk ih =>
      rw [selectionCount, ← ih, binomial_eq_choose, Nat.choose_eq_zero_of_lt (by omega),
        Nat.add_zero]

/-! ## Choosing by position -/

/-- `choose k` lists exactly the sublists of length `k`. -/
theorem mem_choose {α : Type} {cs : List α} : ∀ {k : Nat} {as : List α},
    cs ∈ choose k as ↔ cs.Sublist as ∧ cs.length = k := by
  intro k as
  induction as generalizing k cs with
  | nil =>
    cases k with
    | zero => simp [choose]
    | succ k =>
      simp only [choose, List.not_mem_nil, false_iff, not_and]
      intro h
      rw [List.sublist_nil.mp h]
      exact (Nat.succ_ne_zero k).symm
  | cons a as ih =>
    cases k with
    | zero =>
      rw [choose, List.mem_singleton, List.length_eq_zero_iff]
      exact ⟨fun h => ⟨h ▸ List.nil_sublist _, h⟩, And.right⟩
    | succ k =>
      rw [choose, List.mem_append, List.mem_map]
      constructor
      · rintro (⟨ds, hds, rfl⟩ | h)
        · obtain ⟨hsub, hlen⟩ := ih.mp hds
          exact ⟨hsub.cons_cons a, by rw [List.length_cons, hlen]⟩
        · obtain ⟨hsub, hlen⟩ := ih.mp h
          exact ⟨hsub.cons a, hlen⟩
      · rintro ⟨hsub, hlen⟩
        cases hsub with
        | cons _ hsub => exact Or.inr (ih.mpr ⟨hsub, hlen⟩)
        | @cons_cons ds _ _ hsub =>
          exact Or.inl ⟨ds, ih.mpr ⟨hsub, Nat.succ.inj hlen⟩, rfl⟩

theorem length_choose {α : Type} (k : Nat) (as : List α) :
    (choose k as).length = as.length.choose k := by
  induction as generalizing k with
  | nil => cases k <;> rfl
  | cons a as ih =>
    cases k with
    | zero => rw [Nat.choose_zero_right]; rfl
    | succ k =>
      rw [choose, List.length_append, List.length_map, ih, ih, List.length_cons,
        Nat.choose_succ_succ]

/-! ## The selections of an option -/

/-- How many choices an option allows at once: as many as it states, or one if it states none or
    fewer. -/
def ParsedOption.atOnce (o : ParsedOption) : Int :=
  match o.action.maxSelections with
  | none => 1
  | some most => max 1 most

/-- The program's limit may be below one, and then a single choice is allowed. -/
theorem atOnce_eq (o : ParsedOption) : o.atOnce = max 1 o.action.limit := by
  rw [ParsedOption.atOnce, Action.limit]
  cases o.action.maxSelections with
  | none => rfl
  | some most =>
    by_cases hzero : most = 0
    · subst hzero
      rfl
    · simp only [beq_eq_false_iff_ne.mpr hzero, Bool.false_eq_true, if_false]

/-- Distinct positions in the choices of an option, at least one and no more than it allows at
    once. -/
structure Selection (o : ParsedOption) where
  positions : List (Fin o.action.adds.length)
  distinct : positions.Nodup
  nonempty : positions ≠ []
  few : (positions.length : Int) ≤ o.atOnce

/-- The choices at the selected positions. -/
def Selection.choices {o : ParsedOption} (x : Selection o) : List Choice :=
  x.positions.map o.action.adds.get

/-- The number of selections that an option offers, those in another order not counted again. -/
def ParsedOption.offers (o : ParsedOption) : Nat :=
  ∑ i ∈ Finset.range o.atOnce.toNat, o.action.adds.length.choose (i + 1)

/-- The positions of a sublist make a selection. -/
theorem exists_selection_of_sublist {o : ParsedOption} {cs : List Choice}
    (hsub : cs.Sublist o.action.adds) (hne : cs ≠ [])
    (hfew : (cs.length : Int) ≤ o.atOnce) : ∃ x : Selection o, x.choices = cs := by
  rw [← List.map_get_finRange o.action.adds] at hsub
  obtain ⟨ps, hps, rfl⟩ := List.sublist_map_iff.mp hsub
  refine ⟨⟨ps, (List.nodup_finRange _).sublist hps, ?_, ?_⟩, rfl⟩
  · rintro rfl
    exact hne rfl
  · rwa [List.length_map] at hfew

/-- A selection is a permutation of the sublist with the same positions in ascending order. -/
theorem Selection.exists_sublist {o : ParsedOption} (x : Selection o) :
    ∃ cs : List Choice, cs.Perm x.choices ∧ cs.Sublist o.action.adds := by
  have hsubperm : List.Subperm x.positions (List.finRange o.action.adds.length) :=
    x.distinct.subperm fun i _ => List.mem_finRange i
  obtain ⟨ps, hperm, hsub⟩ := hsubperm
  refine ⟨ps.map o.action.adds.get, hperm.map _, ?_⟩
  have h := hsub.map o.action.adds.get
  rwa [List.map_get_finRange] at h

/-- An option that allows one choice at a time offers each of its choices. -/
theorem offers_of_limit_le {o : ParsedOption} (h : o.action.limit ≤ 1) :
    o.offers = o.action.adds.length := by
  rw [ParsedOption.offers, atOnce_eq, max_eq_left h]
  simp

/-- An option that allows several choices offers as many selections as `selectionCount` says. -/
theorem offers_of_lt_limit {o : ParsedOption} (h : 1 < o.action.limit) :
    o.offers = selectionCount o.action.adds.length
      (min o.action.limit.toNat o.action.adds.length) := by
  rw [selectionCount_min, selectionCount_eq_sum, ParsedOption.offers, atOnce_eq,
    max_eq_right (by omega)]

/-! ## What the program lists -/

/-- The two forms of a list of selections: single choices, or all sublists of 1 to K choices. -/
theorem selections_ok {o : ParsedOption} {s : Settings} {found : List (List Choice)}
    (h : selections o s = .ok found) :
    (o.action.limit ≤ 1 ∧ found = o.action.adds.map fun c => [c]) ∨
    (1 < o.action.limit ∧
      found = (List.range (min o.action.limit.toNat o.action.adds.length)).flatMap fun i =>
        choose (i + 1) o.action.adds) := by
  simp only [selections] at h
  split at h
  · rename_i hlimit
    exact Or.inl ⟨hlimit, (Except.ok.inj h).symm⟩
  · rename_i hlimit
    split at h
    · cases h
    · split at h
      · cases h
      · exact Or.inr ⟨by omega, (Except.ok.inj h).symm⟩

/-- **An option is refused exactly if it offers too much**: it allows more choices at once than are
    enumerated, or it offers more selections than one option may. -/
theorem selections_error_iff {o : ParsedOption} {s : Settings} :
    (∃ e, selections o s = .error e) ↔
      1 < o.atOnce ∧ ((s.maxEnumerated : Int) < o.atOnce ∨ s.maxBranching < o.offers) := by
  rw [atOnce_eq]
  by_cases hlimit : o.action.limit ≤ 1
  · simp [selections, hlimit]
  · have hone : 1 < o.action.limit := by omega
    rw [offers_of_lt_limit hone, max_eq_right hone.le]
    by_cases hmost : o.action.limit > s.maxEnumerated
    · simp [selections, hlimit, hmost, hone]
    · by_cases hmany : selectionCount o.action.adds.length
          (min o.action.limit.toNat o.action.adds.length) > s.maxBranching
      · simp [selections, hlimit, hmost, hmany, hone]
      · simp [selections, hlimit, hmost, hmany]

/-- Everything listed is a selection. -/
theorem exists_selection {o : ParsedOption} {s : Settings} {found : List (List Choice)}
    (h : selections o s = .ok found) {cs : List Choice} (hcs : cs ∈ found) :
    ∃ x : Selection o, x.choices = cs := by
  rcases selections_ok h with ⟨hlimit, rfl⟩ | ⟨hlimit, rfl⟩
  · obtain ⟨c, hc, rfl⟩ := List.mem_map.mp hcs
    refine exists_selection_of_sublist (List.singleton_sublist.mpr hc) (List.cons_ne_nil c []) ?_
    rw [atOnce_eq]
    exact le_max_left 1 o.action.limit
  · obtain ⟨i, hi, hmem⟩ := List.mem_flatMap.mp hcs
    obtain ⟨hsub, hlen⟩ := mem_choose.mp hmem
    have hi' := List.mem_range.mp hi
    refine exists_selection_of_sublist hsub ?_ ?_
    · rintro rfl
      exact Nat.succ_ne_zero i hlen.symm
    · rw [hlen, atOnce_eq]
      omega

/-- Every selection is listed, with its choices in the order of the option. -/
theorem exists_mem_selections {o : ParsedOption} {s : Settings} {found : List (List Choice)}
    (h : selections o s = .ok found) (x : Selection o) :
    ∃ cs ∈ found, cs.Perm x.choices := by
  obtain ⟨cs, hperm, hsub⟩ := x.exists_sublist
  have hlen : cs.length = x.positions.length := by
    rw [hperm.length_eq, Selection.choices, List.length_map]
  have hpos : 0 < x.positions.length := List.length_pos_iff.mpr x.nonempty
  have hfew := x.few
  rw [atOnce_eq] at hfew
  refine ⟨cs, ?_, hperm⟩
  rcases selections_ok h with ⟨hlimit, rfl⟩ | ⟨hlimit, rfl⟩
  · obtain ⟨c, rfl⟩ := List.length_eq_one_iff.mp (show cs.length = 1 by omega)
    exact List.mem_map.mpr ⟨c, List.singleton_sublist.mp hsub, rfl⟩
  · have hle := hsub.length_le
    refine List.mem_flatMap.mpr ⟨cs.length - 1, List.mem_range.mpr ?_, mem_choose.mpr ⟨hsub, ?_⟩⟩
    · omega
    · omega

/-- The list has as many entries as the option offers selections. -/
theorem length_selections {o : ParsedOption} {s : Settings} {found : List (List Choice)}
    (h : selections o s = .ok found) : found.length = o.offers := by
  rcases selections_ok h with ⟨hlimit, rfl⟩ | ⟨hlimit, rfl⟩
  · rw [offers_of_limit_le hlimit, List.length_map]
  · rw [offers_of_lt_limit hlimit, selectionCount_eq_sum, List.length_flatMap]
    simp only [length_choose]
    rfl

end Muster.Wargear
