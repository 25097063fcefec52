/-
  Position sets: "up to K of the following" offers each of them once, the smaller ones first.

  1. **Program.**  `selections` adds up binomial coefficients, refuses an option whose sum is beyond
     the bound, and otherwise joins what `choose` lists for the sizes 1 to K.

  2. **Specification**, without a count and without a recursion.  What can be taken is a SET of
     positions in the choices, not empty and of at most K positions (`positionSets`); it is taken in
     the order of the positions (`ParsedOption.taking`).  A set `Precedes` a larger one, and one of
     its own size if its positions come first in dictionary order.

  3. **The crux** (`pairwise_lex_choose`) follows the two branches of `choose`: what takes the first
     position comes before what leaves it out, and begins with a smaller position.

  4. **Count and list agree** because both are the number of the position sets: the list names each
     set once (`enumerates_listedSets`), and its length is the sum of coefficients
     (`length_listedSets`).
-/
import Mathlib
import Muster.Proofs.Wargear.Selection

namespace Muster.Wargear

/-! ## Choosing in order -/

/-- To choose from images is to choose and then take the images. -/
theorem choose_map {α β : Type} (f : α → β) (k : Nat) (as : List α) :
    choose k (as.map f) = (choose k as).map (List.map f) := by
  induction as generalizing k with
  | nil => cases k <;> rfl
  | cons a as ih =>
    cases k with
    | zero => rfl
    | succ k =>
      rw [List.map_cons, choose, choose, ih, ih, List.map_append, List.map_map, List.map_map]
      rfl

/-- **What is chosen from an ascending list comes in dictionary order.** -/
theorem pairwise_lex_choose {α : Type} [LT α] {as : List α} (h : as.Pairwise (· < ·)) (k : Nat) :
    (choose k as).Pairwise (List.Lex (· < ·)) := by
  induction as generalizing k with
  | nil =>
    cases k with
    | zero => exact List.pairwise_singleton _ []
    | succ k => exact List.Pairwise.nil
  | cons a as ih =>
    obtain ⟨hfirst, hrest⟩ := List.pairwise_cons.mp h
    cases k with
    | zero => exact List.pairwise_singleton _ []
    | succ k =>
      rw [choose, List.pairwise_append, List.pairwise_map]
      refine ⟨(ih hrest k).imp List.Lex.cons, ih hrest (k + 1), ?_⟩
      -- what takes `a` begins with it, what leaves it out begins with something greater
      intro x hx y hy
      obtain ⟨ds, _, rfl⟩ := List.mem_map.mp hx
      obtain ⟨hsub, hlen⟩ := mem_choose.mp hy
      obtain ⟨b, bs, rfl⟩ := List.exists_cons_of_length_eq_add_one hlen
      exact List.Lex.rel (hfirst b (hsub.subset List.mem_cons_self))

/-! ## Sets of positions -/

/-- The sets of 1 to `k` out of `n` positions. -/
def positionSets (n k : Nat) : Finset (Finset (Fin n)) :=
  Finset.univ.filter fun P => P.Nonempty ∧ P.card ≤ k

/-- The positions of a set in ascending order. -/
def ascending {n : Nat} (P : Finset (Fin n)) : List (Fin n) := P.sort (· ≤ ·)

/-- A set precedes the larger ones, and those of its size whose positions come later in dictionary
    order. -/
def Precedes {n : Nat} (P Q : Finset (Fin n)) : Prop :=
  P.card < Q.card ∨ P.card = Q.card ∧ List.Lex (· < ·) (ascending P) (ascending Q)

/-- The list names each of the sets of 1 to `k` positions once, in order. -/
structure Enumerates {n : Nat} (k : Nat) (sets : List (Finset (Fin n))) : Prop where
  mem : ∀ P, P ∈ sets ↔ P ∈ positionSets n k
  once : sets.Nodup
  order : sets.Pairwise Precedes

section Positions

variable {n k : Nat}

theorem mem_positionSets {P : Finset (Fin n)} : P ∈ positionSets n k ↔ P.Nonempty ∧ P.card ≤ k := by
  unfold positionSets
  rw [Finset.mem_filter]
  exact and_iff_right (Finset.mem_univ P)

/-- No set has more positions than there are. -/
theorem positionSets_min (n k : Nat) : positionSets n (min k n) = positionSets n k := by
  ext P
  rw [mem_positionSets, mem_positionSets, le_min_iff]
  have hcard : P.card ≤ n := card_finset_fin_le P
  exact and_congr_right fun _ => and_iff_left hcard

theorem toFinset_ascending (P : Finset (Fin n)) : (ascending P).toFinset = P :=
  Finset.sort_toFinset P (· ≤ ·)

theorem length_ascending (P : Finset (Fin n)) : (ascending P).length = P.card :=
  Finset.length_sort (· ≤ ·)

theorem ascending_sublist (P : Finset (Fin n)) : (ascending P).Sublist (List.finRange n) := by
  have hsorted : (ascending P).Pairwise (· ≤ ·) := Finset.pairwise_sort P (· ≤ ·)
  refine List.sublist_of_subperm_of_pairwise ?_ hsorted (List.pairwise_le_finRange n)
  exact (Finset.sort_nodup P (· ≤ ·)).subperm fun i _ => List.mem_finRange i

/-- An ascending list of positions is that of its set. -/
theorem ascending_toFinset {ps : List (Fin n)} (h : ps.Sublist (List.finRange n)) :
    ascending ps.toFinset = ps := by
  have hnodup : ps.Nodup := (List.nodup_finRange n).sublist h
  exact (List.toFinset_sort (· ≤ ·) hnodup).mpr ((List.pairwise_le_finRange n).sublist h)

theorem Precedes.ne {P Q : Finset (Fin n)} (h : Precedes P Q) : P ≠ Q := by
  rintro rfl
  rcases h with hless | ⟨_, hlex⟩
  · exact Nat.lt_irrefl _ hless
  · exact lt_irrefl (ascending P) hlex

/-! ## The list -/

/-- The sets of 1 to `k` positions as the sizes and `choose` bring them. -/
def listedSets (n k : Nat) : List (Finset (Fin n)) :=
  (List.range (min k n)).flatMap fun i => (choose (i + 1) (List.finRange n)).map List.toFinset

/-- What is listed for a size are the sets of that size. -/
theorem mem_map_toFinset_choose {i : Nat} {P : Finset (Fin n)} :
    P ∈ (choose i (List.finRange n)).map List.toFinset ↔ P.card = i := by
  rw [List.mem_map]
  constructor
  · rintro ⟨ps, hps, rfl⟩
    obtain ⟨hsub, hlen⟩ := mem_choose.mp hps
    rw [List.toFinset_card_of_nodup ((List.nodup_finRange n).sublist hsub), hlen]
  · intro hcard
    refine ⟨ascending P, mem_choose.mpr ⟨ascending_sublist P, ?_⟩, toFinset_ascending P⟩
    rw [length_ascending, hcard]

theorem mem_listedSets {P : Finset (Fin n)} : P ∈ listedSets n k ↔ P ∈ positionSets n k := by
  unfold listedSets
  rw [← positionSets_min, mem_positionSets, List.mem_flatMap, ← Finset.card_pos]
  constructor
  · rintro ⟨i, hi, hP⟩
    have hsize := List.mem_range.mp hi
    have hcard := mem_map_toFinset_choose.mp hP
    omega
  · rintro ⟨hpos, hfew⟩
    refine ⟨P.card - 1, List.mem_range.mpr (by omega), mem_map_toFinset_choose.mpr (by omega)⟩

theorem pairwise_listedSets (n k : Nat) : (listedSets n k).Pairwise Precedes := by
  unfold listedSets
  rw [List.pairwise_flatMap]
  constructor
  · -- within a size the dictionary decides
    intro i _
    rw [List.pairwise_map]
    refine (pairwise_lex_choose (List.pairwise_lt_finRange n) (i + 1)).imp_of_mem ?_
    intro ps qs hps hqs hlex
    have hsize := mem_map_toFinset_choose.mp (List.mem_map_of_mem hps)
    have hsize' := mem_map_toFinset_choose.mp (List.mem_map_of_mem hqs)
    refine Or.inr ⟨hsize.trans hsize'.symm, ?_⟩
    rwa [ascending_toFinset (mem_choose.mp hps).1, ascending_toFinset (mem_choose.mp hqs).1]
  · -- of two sizes the smaller comes first
    refine List.pairwise_lt_range.imp ?_
    intro i j hij P hP Q hQ
    have hsize := mem_map_toFinset_choose.mp hP
    have hsize' := mem_map_toFinset_choose.mp hQ
    exact Or.inl (by omega)

/-- **Each set of 1 to `k` positions is listed once, in order.** -/
theorem enumerates_listedSets (n k : Nat) : Enumerates k (listedSets n k) where
  mem _ := mem_listedSets
  once := (pairwise_listedSets n k).imp Precedes.ne
  order := pairwise_listedSets n k

theorem length_listedSets (n k : Nat) :
    (listedSets n k).length = ∑ i ∈ Finset.range (min k n), n.choose (i + 1) := by
  unfold listedSets
  rw [List.length_flatMap]
  simp only [List.length_map, length_choose, List.length_finRange]
  rfl

/-- **The count that the bound is checked on is the number of sets.** -/
theorem card_positionSets (n k : Nat) : (positionSets n k).card = selectionCount n (min k n) := by
  have hset : (listedSets n k).toFinset = positionSets n k := by
    ext P
    rw [List.mem_toFinset, mem_listedSets]
  rw [← hset, List.toFinset_card_of_nodup (enumerates_listedSets n k).once, length_listedSets,
    selectionCount_eq_sum]

end Positions

/-! ## The selections of an option -/

/-- The choices at a set of positions, in the order of the option. -/
def ParsedOption.taking (o : ParsedOption) (P : Finset (Fin o.action.adds.length)) : List Choice :=
  (ascending P).map o.action.adds.get

/-- What the program joins for the sizes 1 to `k` is taken at the listed sets. -/
theorem flatMap_choose_eq_taking (o : ParsedOption) (k : Nat) :
    ((List.range (min k o.action.adds.length)).flatMap fun i => choose (i + 1) o.action.adds)
      = (listedSets o.action.adds.length k).map o.taking := by
  unfold listedSets
  rw [List.map_flatMap]
  refine List.flatMap_congr fun i _ => ?_
  rw [List.map_map]
  conv_lhs => rw [← List.map_get_finRange o.action.adds, choose_map]
  refine List.map_congr_left fun ps hps => ?_
  show ps.map o.action.adds.get = (ascending ps.toFinset).map o.action.adds.get
  rw [ascending_toFinset (mem_choose.mp hps).1]

/-- **"Up to K" offers every selection once.**  An option that allows K choices at once, two or
    more, is refused for its count if K is beyond what is enumerated, and for its selections if the
    sets of at most K of its positions are more than an option may offer.  Otherwise its selections
    are what it has at these sets, each named once, smaller ones first and then in dictionary order,
    and they are as many as the binomial coefficients say. -/
theorem selections_up_to {o : ParsedOption} {most : Int} (hmost : o.action.maxSelections = some most)
    (hseveral : 2 ≤ most) (s : Settings) :
    let n := o.action.adds.length
    let few := min most.toNat n
    ∃ sets : List (Finset (Fin n)), Enumerates most.toNat sets ∧
      sets.length = ∑ i ∈ Finset.Icc 1 few, n.choose i ∧
      selections o s =
        if (s.maxEnumerated : Int) < most then .error ⟨.upTo most, s.maxEnumerated, o.line⟩
        else if s.maxBranching < (positionSets n few).card then
          .error ⟨.selections (positionSets n few).card, s.maxBranching, o.line⟩
        else .ok (sets.map o.taking) := by
  intro n few
  have hlimit : o.action.limit = most := by
    unfold Action.limit
    rw [hmost]
    dsimp only
    rw [beq_eq_false_iff_ne.mpr (by omega : most ≠ 0), if_neg Bool.false_ne_true]
  refine ⟨listedSets n most.toNat, enumerates_listedSets n most.toNat, ?_, ?_⟩
  · rw [length_listedSets, Finset.range_eq_Ico, Finset.sum_Ico_add' (fun i => n.choose i) 0 _ 1]
    rfl
  · have hcount : (positionSets n few).card = selectionCount n few := by
      rw [positionSets_min, card_positionSets]
    rw [hcount, ← flatMap_choose_eq_taking]
    simp only [selections, hlimit]
    rw [if_neg (by omega)]

/-- Up to two of three choices, the first two of which are the same. -/
def upToTwo : ParsedOption where
  line := 3
  rawText := "This model can be equipped with up to two of the following: 1 axe 1 axe 1 horn"
  wargearParsed := true
  targeting := .plain "this-model" "this-model"
  action := ⟨"equip-up-to", .add, [],
    [⟨[⟨"axe", 1⟩], false⟩, ⟨[⟨"axe", 1⟩], false⟩, ⟨[⟨"horn", 1⟩], false⟩], true, some 2⟩
  constraints := .none

/-- It offers six selections, both axes among them, and is refused where five are allowed. -/
theorem selections_upToTwo :
    let tight : Settings := { Settings.standard with
      maxBranching := 5, one_le_maxBranching := by decide }
    upToTwo.action.maxSelections = some 2 ∧ (2 : Int) ≤ 2 ∧
      (∃ sets : List (Finset (Fin 3)), Enumerates 2 sets ∧ sets.length = 6 ∧
        selections upToTwo .standard = .ok (sets.map upToTwo.taking)) ∧
      selections upToTwo tight = .error ⟨.selections 6, 5, 3⟩ := by
  intro tight
  have hcard : (positionSets 3 2).card = 6 := by
    rw [card_positionSets]
    rfl
  refine ⟨rfl, by decide, ?_, ?_⟩
  · obtain ⟨sets, henumerates, hlength, hselections⟩ :=
      selections_up_to (o := upToTwo) rfl (by decide) .standard
    refine ⟨sets, henumerates, hlength.trans (by decide), hselections.trans ?_⟩
    rw [if_neg (by decide), if_neg]
    show ¬ 64 < (positionSets 3 2).card
    omega
  · obtain ⟨sets, _, _, hselections⟩ := selections_up_to (o := upToTwo) rfl (by decide) tight
    refine hselections.trans ?_
    rw [if_neg (by decide), if_pos]
    · show Except.error (⟨.selections (positionSets 3 2).card, 5, 3⟩ : BranchingError) = _
      rw [hcard]
    · show 5 < (positionSets 3 2).card
      omega

end Muster.Wargear
