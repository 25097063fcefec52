/-
  What was accepted: what a successful reading says about the parts of a document.

  1. **Program.**  `Checked` combines readings in parallel, so that all problems are reported.
     Records, lists and choices of `Document/Reader` are built on it.

  2. **Specification.**  A whole is accepted exactly if its parts are.  One lemma for each way of
     combining, as an equivalence: a proof about a record rewrites its reading into a conjunction
     and takes the fields that it needs.

  A bound that a reader checks is a fact about every value that it gives (`atLeast_eq_ok`,
  `atMost_eq_ok`).
-/
import Mathlib
import Muster.Document.Reader

namespace Muster.Document

variable {α β : Type}

/-! ## Parts in parallel -/

namespace Checked

theorem seq_eq_ok {f : Checked (α → β)} {x : Checked α} {b : β} :
    f <*> x = .ok b ↔ ∃ g a, f = .ok g ∧ x = .ok a ∧ g a = b := by
  show Checked.both f (fun _ => x) = .ok b ↔ _
  cases f <;> cases x <;> simp [Checked.both]

theorem map_eq_ok {f : α → β} {x : Checked α} {b : β} :
    f <$> x = .ok b ↔ ∃ a, x = .ok a ∧ f a = b := by
  show Checked.both (.ok f) (fun _ => x) = .ok b ↔ _
  cases x <;> simp [Checked.both]

theorem andThen_eq_ok {x : Checked α} {f : α → Checked β} {b : β} :
    x.andThen f = .ok b ↔ ∃ a, x = .ok a ∧ f a = .ok b := by
  cases x <;> simp [andThen]

theorem within_eq_ok {part : String} {x : Checked α} {a : α} :
    x.within part = .ok a ↔ x = .ok a := by
  cases x <;> simp [within]

theorem refuse_ne_ok {c : Cause} {a : α} : Checked.refuse c ≠ .ok a := nofun

end Checked

/-! ## Bounds -/

theorem atLeast_eq_ok {low : Int} {r : Reader Int} {v : Value} {n : Int} :
    atLeast low r v = .ok n ↔ r v = .ok n ∧ low ≤ n := by
  rw [atLeast, Checked.andThen_eq_ok]
  constructor
  · rintro ⟨m, hm, h⟩
    split at h
    · exact absurd h Checked.refuse_ne_ok
    · rename_i hlow
      cases h
      exact ⟨hm, by omega⟩
  · rintro ⟨hn, hlow⟩
    exact ⟨n, hn, if_neg (by omega)⟩

theorem atMost_eq_ok {high : Int} {r : Reader Int} {v : Value} {n : Int} :
    atMost high r v = .ok n ↔ r v = .ok n ∧ n ≤ high := by
  rw [atMost, Checked.andThen_eq_ok]
  constructor
  · rintro ⟨m, hm, h⟩
    split at h
    · exact absurd h Checked.refuse_ne_ok
    · rename_i hhigh
      cases h
      exact ⟨hm, by omega⟩
  · rintro ⟨hn, hhigh⟩
    exact ⟨n, hn, if_neg (by omega)⟩

/-! ## Lists, and values that may be absent -/

theorem itemsFrom_eq_ok {r : Reader α} : ∀ {i : Nat} {vs : List Value} {as : List α},
    itemsFrom r i vs = .ok as ↔ List.Forall₂ (fun v a => r v = .ok a) vs as
  | i, [], as => by
    rw [itemsFrom, List.forall₂_nil_left_iff]
    exact ⟨fun h => (Checked.ok.inj h).symm, fun h => h ▸ rfl⟩
  | i, v :: vs, as => by
    rw [itemsFrom, Checked.seq_eq_ok, List.forall₂_cons_left_iff]
    constructor
    · rintro ⟨g, bs, hg, hbs, rfl⟩
      obtain ⟨b, hb, rfl⟩ := Checked.map_eq_ok.mp hg
      exact ⟨b, bs, Checked.within_eq_ok.mp hb, itemsFrom_eq_ok.mp hbs, rfl⟩
    · rintro ⟨b, bs, hb, hbs, rfl⟩
      exact ⟨_, bs, Checked.map_eq_ok.mpr ⟨b, Checked.within_eq_ok.mpr hb, rfl⟩,
        itemsFrom_eq_ok.mpr hbs, rfl⟩

theorem listOf_eq_ok {r : Reader α} {v : Value} {as : List α} :
    listOf r v = .ok as ↔ ∃ vs, v = .list vs ∧ List.Forall₂ (fun w a => r w = .ok a) vs as := by
  rw [listOf]
  cases v with
  | list vs =>
    rw [listFor, itemsFrom_eq_ok]
    exact ⟨fun h => ⟨vs, rfl, h⟩, fun ⟨ws, hws, h⟩ => Value.list.inj hws ▸ h⟩
  | _ =>
    refine ⟨fun h => absurd h Checked.refuse_ne_ok, ?_⟩
    rintro ⟨vs, hvs, _⟩
    cases hvs

/-- A value that is there was read as such. -/
theorem of_nullable_eq_some {r : Reader α} {v : Value} {a : α}
    (h : nullable r v = .ok (some a)) : r v = .ok a := by
  have hread : ∀ w : Value, some <$> r w = .ok (some a) → r w = .ok a := by
    intro w hw
    obtain ⟨b, hb, hsome⟩ := Checked.map_eq_ok.mp hw
    rw [hb, Option.some.inj hsome]
  cases v with
  | null => cases h
  | _ => exact hread _ h

/-! ## Records -/

theorem record_eq_ok {read : Value → Checked α} {v : Value} {a : α} :
    record read v = .ok a ↔ (∃ fs, v = .object fs) ∧ read v = .ok a := by
  cases v with
  | object fs => exact ⟨fun h => ⟨⟨fs, rfl⟩, h⟩, And.right⟩
  | _ =>
    refine ⟨fun h => absurd h Checked.refuse_ne_ok, ?_⟩
    rintro ⟨⟨fs, hfs⟩, _⟩
    cases hfs

theorem required_eq_ok {r : Reader α} {v : Value} {name : String} {a : α} :
    required v name r = .ok a ↔ ∃ w, v.field? name = some w ∧ r w = .ok a := by
  rw [required]
  cases v.field? name with
  | none =>
    refine ⟨fun h => absurd h nofun, ?_⟩
    rintro ⟨w, hw, _⟩
    cases hw
  | some w =>
    rw [Checked.within_eq_ok]
    exact ⟨fun h => ⟨w, rfl, h⟩, fun ⟨x, hx, h⟩ => Option.some.inj hx ▸ h⟩

theorem optional_eq_ok {r : Reader α} {v : Value} {name : String} {default a : α} :
    optional v name default r = .ok a ↔
      (v.field? name = none ∧ a = default) ∨ ∃ w, v.field? name = some w ∧ r w = .ok a := by
  rw [optional]
  cases v.field? name with
  | none => simp [eq_comm]
  | some w => simp [Checked.within_eq_ok]

end Muster.Document
