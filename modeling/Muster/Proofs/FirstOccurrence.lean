/-
  First occurrences: what is left of a list if of equal items only the first is kept.

  Ids, model types, loadouts and clauses are listed in the order in which they are met, each once.
  `List.eraseDups` is that list.  Two facts carry what is said of it elsewhere: it depends on the
  parts of a list through their own first occurrences alone (`eraseDups_append_eraseDups`), and a
  list without repetitions is left as it is (`eraseDups_of_nodup`).
-/
import Mathlib

namespace Muster

variable {α β : Type} [BEq α] [LawfulBEq α]

/-- First occurrences differ from each other.  `eraseDups` goes on with a filtered tail, so the
    recursion is on the length. -/
theorem nodup_eraseDups : ∀ as : List α, as.eraseDups.Nodup
  | [] => List.nodup_nil
  | a :: as => by
    rw [List.eraseDups_cons]
    refine List.nodup_cons.mpr ⟨?_, nodup_eraseDups (as.filter fun b => !b == a)⟩
    simp [List.mem_eraseDups]
termination_by as => as.length
decreasing_by exact Nat.lt_succ_of_le (List.length_filter_le _ _)

theorem eraseDups_concat_of_mem {as : List α} {a : α} (h : a ∈ as) :
    (as ++ [a]).eraseDups = as.eraseDups := by
  rw [List.eraseDups_append, List.removeAll, List.filter_cons_of_neg (by simpa using h)]
  exact List.append_nil _

theorem eraseDups_concat_of_not_mem {as : List α} {a : α} (h : a ∉ as) :
    (as ++ [a]).eraseDups = as.eraseDups ++ [a] := by
  rw [List.eraseDups_append, List.removeAll, List.filter_cons_of_pos (by simpa using h)]
  rfl

theorem eraseDups_of_nodup {as : List α} (h : as.Nodup) : as.eraseDups = as := by
  induction as using List.reverseRecOn with
  | nil => rfl
  | append_singleton as a ih =>
    obtain ⟨has, _, hapart⟩ := List.nodup_append.mp h
    have hnew : a ∉ as := fun ha => hapart a ha a (List.mem_singleton_self a) rfl
    rw [eraseDups_concat_of_not_mem hnew, ih has]

theorem eraseDups_eraseDups (as : List α) : as.eraseDups.eraseDups = as.eraseDups :=
  eraseDups_of_nodup (nodup_eraseDups as)

/-- The order decides which occurrences come first, but not what occurs. -/
theorem perm_eraseDups {as bs : List α} (h : as.Perm bs) : as.eraseDups.Perm bs.eraseDups := by
  refine (List.perm_ext_iff_of_nodup (nodup_eraseDups as) (nodup_eraseDups bs)).mpr fun a => ?_
  rw [List.mem_eraseDups, List.mem_eraseDups, h.mem_iff]

/-- The first occurrences in two lists are those among the first occurrences in each. -/
theorem eraseDups_append_eraseDups (as bs : List α) :
    (as.eraseDups ++ bs.eraseDups).eraseDups = (as ++ bs).eraseDups := by
  induction bs using List.reverseRecOn with
  | nil =>
    show (as.eraseDups ++ []).eraseDups = _
    rw [List.append_nil, List.append_nil, eraseDups_eraseDups]
  | append_singleton bs b ih =>
    -- so whether `b` is a first occurrence is the same question on both sides
    have hmem : b ∈ as.eraseDups ++ bs.eraseDups ↔ b ∈ as ++ bs := by
      simp only [List.mem_append, List.mem_eraseDups]
    by_cases hb : b ∈ bs
    · rw [eraseDups_concat_of_mem hb, ih, ← List.append_assoc,
        eraseDups_concat_of_mem (List.mem_append_right as hb)]
    · rw [eraseDups_concat_of_not_mem hb, ← List.append_assoc, ← List.append_assoc]
      by_cases hall : b ∈ as ++ bs
      · rw [eraseDups_concat_of_mem (hmem.mpr hall), eraseDups_concat_of_mem hall, ih]
      · rw [eraseDups_concat_of_not_mem (mt hmem.mp hall), eraseDups_concat_of_not_mem hall, ih]

/-- Lists with the same first occurrences may stand for each other. -/
theorem eraseDups_append_congr {as as' bs bs' : List α} (has : as.eraseDups = as'.eraseDups)
    (hbs : bs.eraseDups = bs'.eraseDups) : (as ++ bs).eraseDups = (as' ++ bs').eraseDups := by
  rw [← eraseDups_append_eraseDups, has, hbs, eraseDups_append_eraseDups]

theorem eraseDups_append_self (as : List α) : (as ++ as).eraseDups = as.eraseDups := by
  have hnone : as.removeAll as = [] := by simp [List.removeAll]
  rw [List.eraseDups_append, hnone]
  exact List.append_nil _

/-- A list that is mentioned again and again, and nothing beside it, counts like one mention. -/
theorem eraseDups_flatMap_of_mentions {bs : List β} {f : β → List α} {as : List α}
    (hsome : ∃ b ∈ bs, f b = as) (hall : ∀ b ∈ bs, f b = [] ∨ f b = as) :
    (bs.flatMap f).eraseDups = as.eraseDups := by
  induction bs with
  | nil =>
    obtain ⟨b, hb, _⟩ := hsome
    exact absurd hb List.not_mem_nil
  | cons b bs ih =>
    obtain ⟨hb, hbs⟩ := List.forall_mem_cons.mp hall
    rw [List.flatMap_cons]
    by_cases hrest : ∃ c ∈ bs, f c = as
    · have hlater : (bs.flatMap f).eraseDups = as.eraseDups := ih hrest hbs
      rcases hb with hb | hb
      · rw [hb, List.nil_append, hlater]
      · rw [hb, eraseDups_append_congr rfl hlater, eraseDups_append_self]
    · -- the only mention is the first
      have hnone : bs.flatMap f = [] := by
        refine List.flatMap_eq_nil_iff.mpr fun c hc => ?_
        exact (hbs c hc).resolve_right fun h => hrest ⟨c, hc, h⟩
      have hfirst : f b = as := ((List.exists_mem_cons_iff _ b bs).mp hsome).resolve_right hrest
      rw [hnone, List.append_nil, hfirst]

end Muster
