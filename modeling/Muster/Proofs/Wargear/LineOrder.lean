/-
  Option lines in line order.

  Lines are put one by one behind all that have the same or a smaller number.  So no line is lost or
  added (`inLineOrder_perm`), and the numbers never fall (`pairwise_inLineOrder`).
-/
import Mathlib
import Muster.Wargear.Option

namespace Muster.Wargear

variable {o p : OptionLine} {os : List OptionLine}

theorem insertLine_perm (o : OptionLine) : ∀ os, (insertLine o os).Perm (o :: os)
  | [] => List.Perm.refl _
  | p :: os => by
    rw [insertLine]
    split_ifs
    · exact List.Perm.refl _
    · exact ((insertLine_perm o os).cons p).trans (List.Perm.swap o p os)

/-- **Lines in line order are the lines given.** -/
theorem inLineOrder_perm (os : List OptionLine) : (inLineOrder os).Perm os := by
  have hfold : ∀ (os acc : List OptionLine),
      (os.foldl (fun acc o => insertLine o acc) acc).Perm (os ++ acc) := by
    intro os
    induction os with
    | nil => exact fun acc => List.Perm.refl acc
    | cons o os ih =>
      intro acc
      exact (ih _).trans (((insertLine_perm o acc).append_left os).trans List.perm_middle)
  simpa [inLineOrder] using hfold os []

theorem mem_inLineOrder : p ∈ inLineOrder os ↔ p ∈ os := (inLineOrder_perm os).mem_iff

theorem pairwise_insertLine (h : os.Pairwise fun p q => p.line ≤ q.line) :
    (insertLine o os).Pairwise fun p q => p.line ≤ q.line := by
  induction os with
  | nil => exact List.pairwise_singleton _ _
  | cons p os ih =>
    obtain ⟨hp, hos⟩ := List.pairwise_cons.mp h
    rw [insertLine]
    split_ifs with hlt
    · refine List.pairwise_cons.mpr ⟨List.forall_mem_cons.mpr ⟨hlt.le, fun q hq => ?_⟩, h⟩
      exact hlt.le.trans (hp q hq)
    · refine List.pairwise_cons.mpr ⟨fun q hq => ?_, ih hos⟩
      rcases List.mem_cons.mp ((insertLine_perm o os).subset hq) with rfl | hq
      · exact not_lt.mp hlt
      · exact hp q hq

/-- **In line order the numbers never fall.** -/
theorem pairwise_inLineOrder (os : List OptionLine) :
    (inLineOrder os).Pairwise fun p q => p.line ≤ q.line := by
  have hfold : ∀ (os acc : List OptionLine), acc.Pairwise (fun p q => p.line ≤ q.line) →
      (os.foldl (fun acc o => insertLine o acc) acc).Pairwise fun p q => p.line ≤ q.line := by
    intro os
    induction os with
    | nil => exact fun _ hacc => hacc
    | cons o os ih => exact fun acc hacc => ih _ (pairwise_insertLine hacc)
  exact hfold os [] List.Pairwise.nil

end Muster.Wargear
