/-
  Openings: which rule of the table a sentence comes to first.

  1. **Program.**  A table of rules is tried from the top, and the first rule whose pattern matches
     classifies the sentence.  Every pattern of the targeting table is looked for at the start.

  2. **Specification.**  A rule that does not match may be left out; one that matches and can be read
     decides.  A sentence passes all rules that open with another phrase than its own
     (`find_eq_none_of_opening`), whatever stands behind its first words.
-/
import Mathlib
import Muster.Wargear.Targeting
import Muster.Proofs.Wargear.Item

namespace Muster.Wargear

open Text Pattern

/-! ## The first rule that matches -/

section Table

variable {α : Type} {f a : α} {s : List Char} {r : Rule α} {rs : List (Rule α)}

theorem classify_of_find_eq_none (h : r.pattern.find s = none) :
    classify f s (r :: rs) = classify f s rs := by
  have happly : r.apply s = .ok none := by
    rw [Rule.apply, h]
    split_ifs <;> rfl
  rw [classify, happly]

theorem classify_append_of_find_eq_none : ∀ {rs : List (Rule α)},
    (∀ r ∈ rs, r.pattern.find s = none) → ∀ rs' : List (Rule α),
      classify f s (rs ++ rs') = classify f s rs'
  | [], _, _ => rfl
  | r :: rs, h, rs' => by
    rw [List.cons_append, classify_of_find_eq_none (h r List.mem_cons_self)]
    exact classify_append_of_find_eq_none (fun q hq => h q (List.mem_cons_of_mem r hq)) rs'

theorem classify_of_not_admits (h : r.admits s = false) :
    classify f s (r :: rs) = classify f s rs := by
  have happly : r.apply s = .ok none := by
    rw [Rule.apply, h]
    rfl
  rw [classify, happly]

theorem classify_of_read {m : Pattern.Match} (hadmits : r.admits s = true)
    (hfind : r.pattern.find s = some m) (hread : r.read m s = .ok a) :
    classify f s (r :: rs) = .ok a := by
  rw [classify, Rule.apply, if_pos hadmits, hfind]
  dsimp only
  rw [hread]
  rfl

theorem classify_of_long {m : Pattern.Match} {e : LongNumeral} (hadmits : r.admits s = true)
    (hfind : r.pattern.find s = some m) (hread : r.read m s = .error (.longNumeral e)) :
    classify f s (r :: rs) = .error e := by
  rw [classify, Rule.apply, if_pos hadmits, hfind]
  dsimp only
  rw [hread]
  rfl

end Table

/-! ## Sentences -/

/-- In ASCII there are no typographic quotes. -/
theorem plainQuotes_of_ascii {s : List Char} (h : ∀ c ∈ s, c.toNat < 0x80) : plainQuotes s = s := by
  have hquote : ∀ c ∈ s, plainQuote c = c := by
    intro c hc
    have hlt := h c hc
    have hsingle : (c.toNat == 0x2018 || c.toNat == 0x2019) = false := by
      simp only [Bool.or_eq_false_iff, beq_eq_false_iff_ne]
      omega
    have hdouble : (c.toNat == 0x201C || c.toNat == 0x201D) = false := by
      simp only [Bool.or_eq_false_iff, beq_eq_false_iff_ne]
      omega
    rw [plainQuote, hsingle, hdouble]
    rfl
  rw [plainQuotes, List.map_congr_left hquote, List.map_id']

/-- How a sentence opens is kept, whatever stands behind. -/
theorem exists_sentence_append {s : List Char} (hascii : ∀ c ∈ s, c.toNat < 0x80)
    (hs : IsTrimmed s) (t : List Char) : ∃ t', sentence (s ++ t) = s ++ t' := by
  have hquotes : plainQuotes (s ++ t) = s ++ plainQuotes t := by
    rw [plainQuotes, List.map_append]
    exact congrArg (· ++ plainQuotes t) (plainQuotes_of_ascii hascii)
  obtain ⟨⟨c, r, hstart, hc⟩, u, d, hend, hd⟩ := hs
  have htrim : trimStart (s ++ plainQuotes t) = s ++ plainQuotes t := by
    rw [hstart, List.cons_append]
    exact trimStart_cons hc _
  refine ⟨trimEnd (plainQuotes t), ?_⟩
  rw [sentence, hquotes, trim, htrim, hend, List.append_assoc, List.singleton_append,
    trimEnd_append_cons hd, List.append_assoc, List.singleton_append]

/-! ## The openings of the targeting table -/

/-- How the openings before the last two begin, in the order of the table. -/
def openings : List String := [
  "none", "*", "if this unit contains ", "if this unit contains ", "if this unit", "if ",
  "this unit can be equipped", "all ", "for every ", "for every ", "for every ", "any number of ",
  "up to ", "each ", "the ", "the "]

theorem opens_targetingRules :
    List.Forall₂ (fun r w => r.pattern.Opens w.toList) (targetingRules.take 16) openings := by
  -- the mark of a footnote is a single character, which a literal of length one spells
  repeat first
    | exact .nil
    | refine .cons ?_ ?_
    | exact Opens.start _
    | exact Opens.start ['*']
    | refine Opens.seq _ ?_

/-- **A sentence passes the rules that open otherwise**: those among the first `n` whose phrase and
    the beginning of the sentence are no beginnings of each other. -/
theorem find_eq_none_of_opening {s v t : List Char} {n : Nat} (hn : n ≤ 16)
    (hs : folded s = v ++ t)
    (hother : ∀ w ∈ openings.take n,
      (folded w.toList).isPrefixOf v = false ∧ v.isPrefixOf (folded w.toList) = false) :
    ∀ r ∈ targetingRules.take n, r.pattern.find s = none := by
  intro r hr
  rw [← min_eq_left hn, ← List.take_take] at hr
  obtain ⟨w, hw, hopens⟩ := exists_of_mem_left (List.forall₂_take n opens_targetingRules) hr
  obtain ⟨hleft, hright⟩ := hother w hw
  refine hopens.find_eq_none ?_
  rw [hs]
  exact not_prefix_append hleft hright t

theorem classify_targetingRules_drop {s v t : List Char} {n : Nat} (hn : n ≤ 16)
    (hs : folded s = v ++ t)
    (hother : ∀ w ∈ openings.take n,
      (folded w.toList).isPrefixOf v = false ∧ v.isPrefixOf (folded w.toList) = false) :
    classify .unknown s targetingRules = classify .unknown s (targetingRules.drop n) := by
  conv_lhs => rw [← List.take_append_drop n targetingRules]
  exact classify_append_of_find_eq_none (find_eq_none_of_opening hn hs hother) _

end Muster.Wargear
