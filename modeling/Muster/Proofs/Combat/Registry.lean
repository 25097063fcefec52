/-
  Registries: what is known of the abilities that a document gives.

  A table holds only what was put into it (`Table.mem_of_mem_ofPairs`), so every ability of a core
  registry was read from an entry of its document.  There each template had to be an object.  What
  stands WITHIN a template was not looked at, unless no placeholder occurs anywhere in the ability.
-/
import Mathlib
import Muster.Combat.Registry
import Muster.Proofs.Combat.Template
import Muster.Proofs.Document.Accepted

namespace Muster

/-! ## Tables -/

namespace Table

variable {κ α : Type} [BEq κ]

theorem mem_put {k : κ} {a : α} {p : κ × α} :
    ∀ {t : List (κ × α)}, p ∈ put k a t → p = (k, a) ∨ p ∈ t
  | [], h => Or.inl (List.mem_singleton.mp h)
  | q :: t, h => by
    rw [put] at h
    split at h
    · rcases List.mem_cons.mp h with h | h
      · exact Or.inl h
      · exact Or.inr (List.mem_cons_of_mem q h)
    · rcases List.mem_cons.mp h with h | h
      · exact Or.inr (h ▸ List.mem_cons_self)
      · exact (mem_put h).imp id (List.mem_cons_of_mem q)

theorem lookup_put [LawfulBEq κ] (k j : κ) (a : α) :
    ∀ t : List (κ × α), (put k a t).lookup j = if j == k then some a else t.lookup j
  | [] => by
    rw [put, List.lookup_cons]
    cases j == k <;> rfl
  | q :: t => by
    by_cases hq : q.1 = k
    · rw [put, if_pos (beq_iff_eq.mpr hq), List.lookup_cons, List.lookup_cons, hq]
      cases j == k <;> rfl
    · rw [put, if_neg (by simpa using hq), List.lookup_cons, List.lookup_cons, lookup_put k j a t]
      by_cases h : j = q.1
      · have hne : (j == k) = false := beq_eq_false_iff_ne.mpr fun hk => hq (h.symm.trans hk)
        rw [beq_iff_eq.mpr h, hne]
        rfl
      · rw [beq_eq_false_iff_ne.mpr h]

/-- Putting a value under a key that is there moves no key. -/
theorem map_fst_put [LawfulBEq κ] {k : κ} (a : α) :
    ∀ {t : List (κ × α)}, k ∈ t.map Prod.fst → (put k a t).map Prod.fst = t.map Prod.fst
  | q :: t, h => by
    by_cases hq : q.1 = k
    · rw [put, if_pos (beq_iff_eq.mpr hq), List.map_cons, List.map_cons, hq]
    · have hmem : k ∈ t.map Prod.fst := (List.mem_cons.mp h).resolve_left (Ne.symm hq)
      rw [put, if_neg (by simpa using hq), List.map_cons, List.map_cons, map_fst_put a hmem]

/-- A table holds only pairs that were put in. -/
theorem mem_of_mem_ofPairs {p : κ × α} {ps : List (κ × α)} (h : p ∈ ofPairs ps) : p ∈ ps := by
  induction ps using List.reverseRecOn with
  | nil => exact h
  | append_singleton ps q ih =>
    rw [ofPairs, List.foldl_append] at h
    rcases mem_put h with rfl | h
    · exact List.mem_append_right ps List.mem_cons_self
    · exact List.mem_append_left [q] (ih h)

end Table

namespace Combat

open Text Document

/-! ## Core registries from documents -/

/-- A name is known for one of the abilities that the registry was built of. -/
theorem mem_of_get?_ofAbilities {as : List CoreAbility} {name : String} {a : CoreAbility}
    (h : (CoreRegistry.ofAbilities as).get? name = some a) : a ∈ as := by
  obtain ⟨front, back, hsplit, -⟩ := List.lookup_eq_some_iff.mp h
  have hmem : (abilityKey name.toList, a) ∈ as.map fun a => (abilityKey a.name.toList, a) :=
    Table.mem_of_mem_ofPairs (by
      show _ ∈ (CoreRegistry.ofAbilities as).entries
      rw [hsplit]
      exact List.mem_append_right front List.mem_cons_self)
  obtain ⟨b, hb, heq⟩ := List.mem_map.mp hmem
  exact (Prod.mk.inj heq).2 ▸ hb

theorem isObject_of_templateOf {v t : Value} (h : templateOf v = .ok t) : IsObject t := by
  cases v with
  | object fs =>
    rw [templateOf] at h
    split at h
    · exact ⟨fs, (Checked.ok.inj h).symm⟩
    · exact absurd h Checked.refuse_ne_ok
  | _ => exact absurd h Checked.refuse_ne_ok

/-- Each template of an ability that is read is an object. -/
theorem isObject_of_read {v : Value} {a : CoreAbility} (h : CoreAbility.read v = .ok a) :
    ∀ t ∈ a.templates, IsObject t := by
  obtain ⟨_, h⟩ := record_eq_ok.mp h
  simp only [Checked.seq_eq_ok, Checked.map_eq_ok] at h
  obtain ⟨_, templates, hfront, hread, rfl⟩ := h
  obtain ⟨_, _, ⟨_, _, ⟨_, _, rfl⟩, _, rfl⟩, _, rfl⟩ := hfront
  intro t ht
  rcases optional_eq_ok.mp hread with ⟨-, hnone⟩ | ⟨w, -, hw⟩
  · cases hnone
    cases ht
  · obtain ⟨vs, -, hall⟩ := listOf_eq_ok.mp hw
    obtain ⟨u, -, hu⟩ := exists_of_mem_right hall ht
    exact isObject_of_templateOf hu

/-- An entry gives an ability that was read. -/
theorem exists_read_of_entryAbility {name : Key} {entry : Value} {a : CoreAbility}
    (h : CoreRegistry.entryAbility name entry = .ok a) : ∃ v, CoreAbility.read v = .ok a := by
  rw [CoreRegistry.entryAbility] at h
  split at h
  · rename_i name fs _ _
    cases hread : CoreAbility.read (.object ((.text "name", .text name) :: fs)) with
    | bad ps =>
      rw [hread] at h
      cases h
    | ok b =>
      rw [hread] at h
      have hsame : b = a := by
        simp only [CoreRegistry.checkTemplates] at h
        split_ifs at h
        · exact Except.ok.inj h
        · split at h
          · exact Except.ok.inj h
          · cases h
      exact ⟨_, hsame ▸ hread⟩
  · cases h

/-- Each template of an ability in a registry from a document is an object. -/
theorem isObject_of_ofDocument {v : Value} {core : CoreRegistry}
    (h : CoreRegistry.ofDocument v = .ok core) {name : String} {a : CoreAbility}
    (ha : core.get? name = some a) : ∀ t ∈ a.templates, IsObject t := by
  rw [CoreRegistry.ofDocument] at h
  split at h
  · obtain ⟨as, has, rfl⟩ := map_eq_ok.mp h
    have hmem : a ∈ as := mem_of_get?_ofAbilities ha
    obtain ⟨entry, -, hentry⟩ := exists_of_mem_right (mapM_eq_ok.mp has) hmem
    obtain ⟨w, hw⟩ := exists_read_of_entryAbility hentry
    exact isObject_of_read hw
  · cases h

end Combat

end Muster
