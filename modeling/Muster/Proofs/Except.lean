/-
  Computations that may fail: what a success or a failure of a whole says about its parts.

  Each lemma takes a composed computation apart once, so that a proof about a function written with
  `do` names the results of its steps and never unfolds a bind.
-/
import Mathlib

namespace Muster

variable {ε α β : Type}

/-! ## One step after another -/

theorem bind_eq_ok {x : Except ε α} {f : α → Except ε β} {b : β} :
    x >>= f = .ok b ↔ ∃ a, x = .ok a ∧ f a = .ok b := by
  cases x with
  | error e =>
    constructor
    · intro h
      cases h
    · rintro ⟨a, h, _⟩
      cases h
  | ok a =>
    constructor
    · intro h
      exact ⟨a, rfl, h⟩
    · rintro ⟨c, h, hf⟩
      cases h
      exact hf

theorem bind_eq_error {x : Except ε α} {f : α → Except ε β} {e : ε} :
    x >>= f = .error e ↔ x = .error e ∨ ∃ a, x = .ok a ∧ f a = .error e := by
  cases x with
  | error d =>
    constructor
    · intro h
      cases h
      exact Or.inl rfl
    · rintro (h | ⟨a, h, _⟩)
      · cases h
        rfl
      · cases h
  | ok a =>
    constructor
    · intro h
      exact Or.inr ⟨a, rfl, h⟩
    · rintro (h | ⟨c, h, hf⟩)
      · cases h
      · cases h
        exact hf

theorem map_eq_ok {x : Except ε α} {f : α → β} {b : β} :
    x.map f = .ok b ↔ ∃ a, x = .ok a ∧ f a = b := by
  cases x with
  | error e =>
    constructor
    · intro h
      cases h
    · rintro ⟨a, h, _⟩
      cases h
  | ok a =>
    constructor
    · intro h
      exact ⟨a, rfl, Except.ok.inj h⟩
    · rintro ⟨c, h, rfl⟩
      cases h
      rfl

theorem map_eq_error {x : Except ε α} {f : α → β} {e : ε} :
    x.map f = .error e ↔ x = .error e := by
  cases x with
  | error d =>
    constructor
    · intro h
      cases h
      rfl
    · intro h
      cases h
      rfl
  | ok a =>
    constructor
    · intro h
      cases h
    · intro h
      cases h

/-- A result is changed where there is one. -/
theorem exists_map_ok_iff {x : Except ε α} {f : α → β} :
    (∃ b, x.map f = .ok b) ↔ ∃ a, x = .ok a := by
  cases x with
  | error e => exact ⟨fun ⟨_, h⟩ => (by cases h), fun ⟨_, h⟩ => (by cases h)⟩
  | ok a => exact iff_of_true ⟨f a, rfl⟩ ⟨a, rfl⟩

/-- Two steps of which the second does not need the first. -/
theorem exists_bind_ok_iff {γ : Type} {x : Except ε α} {y : Except ε β} {f : α → β → γ} :
    (∃ c, (do
      let a ← x
      let b ← y
      return f a b) = .ok c) ↔ (∃ a, x = .ok a) ∧ ∃ b, y = .ok b := by
  cases x with
  | error e => exact iff_of_false nofun (fun ⟨⟨_, h⟩, _⟩ => by cases h)
  | ok a =>
    cases y with
    | error e => exact iff_of_false nofun (fun ⟨_, _, h⟩ => by cases h)
    | ok b => exact iff_of_true ⟨f a b, rfl⟩ ⟨⟨a, rfl⟩, b, rfl⟩

/-! ## Renamed errors -/

theorem mapError_eq_ok {δ : Type} {x : Except ε α} {f : ε → δ} {a : α} :
    x.mapError f = .ok a ↔ x = .ok a := by
  cases x with
  | error e =>
    constructor
    · intro h
      cases h
    · intro h
      cases h
  | ok b =>
    constructor
    · intro h
      cases h
      rfl
    · intro h
      cases h
      rfl

theorem map_mapError {δ : Type} (x : Except ε α) (f : ε → δ) (g : α → β) :
    (x.mapError f).map g = (x.map g).mapError f := by
  cases x <;> rfl

/-! ## One step for each item of a list -/

/-- A run over a list succeeds with the results of its items. -/
theorem mapM_eq_ok {f : α → Except ε β} : ∀ {as : List α} {bs : List β},
    as.mapM f = .ok bs ↔ List.Forall₂ (fun a b => f a = .ok b) as bs
  | [], bs => by
    rw [List.mapM_nil, List.forall₂_nil_left_iff]
    exact ⟨fun h => (Except.ok.inj h).symm, fun h => h ▸ rfl⟩
  | a :: as, bs => by
    rw [List.mapM_cons, bind_eq_ok, List.forall₂_cons_left_iff]
    constructor
    · rintro ⟨c, hc, h⟩
      obtain ⟨cs, hcs, h⟩ := bind_eq_ok.mp h
      exact ⟨c, cs, hc, mapM_eq_ok.mp hcs, (Except.ok.inj h).symm⟩
    · rintro ⟨c, cs, hc, hcs, rfl⟩
      exact ⟨c, hc, bind_eq_ok.mpr ⟨cs, mapM_eq_ok.mpr hcs, rfl⟩⟩

/-- Each item of one list has its partner in the other. -/
theorem exists_of_mem_left {R : α → β → Prop} {as : List α} {bs : List β}
    (h : List.Forall₂ R as bs) {a : α} (ha : a ∈ as) : ∃ b ∈ bs, R a b := by
  induction h with
  | nil => exact absurd ha List.not_mem_nil
  | @cons c b as bs hc _ ih =>
    rcases List.mem_cons.mp ha with rfl | ha
    · exact ⟨b, List.mem_cons_self, hc⟩
    · obtain ⟨d, hd, hrel⟩ := ih ha
      exact ⟨d, List.mem_cons_of_mem b hd, hrel⟩

theorem exists_of_mem_right {R : α → β → Prop} {as : List α} {bs : List β}
    (h : List.Forall₂ R as bs) {b : β} (hb : b ∈ bs) : ∃ a ∈ as, R a b :=
  exists_of_mem_left h.flip hb

/-- Each item of a run that succeeds has its result in the list of results. -/
theorem exists_ok_of_mem {f : α → Except ε β} {as : List α} {bs : List β}
    (h : as.mapM f = .ok bs) {a : α} (ha : a ∈ as) : ∃ b ∈ bs, f a = .ok b :=
  exists_of_mem_left (mapM_eq_ok.mp h) ha

/-- A run over a list fails with the error of one of its items. -/
theorem mapM_eq_error {f : α → Except ε β} {e : ε} : ∀ {as : List α},
    as.mapM f = .error e → ∃ a ∈ as, f a = .error e
  | [], h => by cases h
  | a :: as, h => by
    rw [List.mapM_cons] at h
    rcases bind_eq_error.mp h with h | ⟨b, _, h⟩
    · exact ⟨a, List.mem_cons_self, h⟩
    · rcases bind_eq_error.mp h with h | ⟨bs, _, h⟩
      · obtain ⟨c, hc, hfc⟩ := mapM_eq_error h
        exact ⟨c, List.mem_cons_of_mem a hc, hfc⟩
      · cases h

/-- A run over a list succeeds where each of its items does. -/
theorem exists_mapM_ok {f : α → Except ε β} {as : List α} (h : ∀ a ∈ as, ∃ b, f a = .ok b) :
    ∃ bs, as.mapM f = .ok bs := by
  cases hrun : as.mapM f with
  | ok bs => exact ⟨bs, rfl⟩
  | error e =>
    obtain ⟨a, ha, hfail⟩ := mapM_eq_error hrun
    obtain ⟨b, hb⟩ := h a ha
    rw [hb] at hfail
    cases hfail

/-- Of a run that may leave items out, the results: what each item gives, where none is left out. -/
theorem mapM_filterMap_of_forall₂ {γ : Type} {f : α → Except ε (Option γ)} {g : β → Except ε γ} :
    ∀ {as : List α} {bs : List β}, List.Forall₂ (fun a b => f a = (g b).map some) as bs →
      (do
        let found ← as.mapM f
        return found.filterMap id) = bs.mapM g
  | _, _, .nil => rfl
  | a :: as, b :: bs, .cons hab h => by
    have ih := mapM_filterMap_of_forall₂ h
    rw [List.mapM_cons, List.mapM_cons, hab, ← ih]
    cases g b with
    | error e => rfl
    | ok c => cases as.mapM f <;> rfl

/-- A run over some items, if it succeeds, has results. -/
theorem mapM_bind_ite_isEmpty {f : α → Except ε β} {as : List α} (has : as ≠ [])
    (y : Except ε (List β)) :
    (do
      let bs ← as.mapM f
      if bs.isEmpty then y else return bs) = as.mapM f := by
  cases hrun : as.mapM f with
  | error e => rfl
  | ok bs =>
    obtain ⟨a, as, rfl⟩ := List.exists_cons_of_ne_nil has
    obtain ⟨b, bs', _, _, rfl⟩ := List.forall₂_cons_left_iff.mp (mapM_eq_ok.mp hrun)
    rfl

/-- Where the items alone tell whether a step is possible, they tell whether a run is. -/
theorem exists_foldlM_ok_iff {f : β → α → Except ε β} {possible : α → Prop}
    (hstep : ∀ b a, (∃ c, f b a = .ok c) ↔ possible a) :
    ∀ (as : List α) (b : β), (∃ c, as.foldlM f b = .ok c) ↔ ∀ a ∈ as, possible a
  | [], b => by
    rw [List.foldlM_nil]
    exact ⟨fun _ a ha => absurd ha List.not_mem_nil, fun _ => ⟨b, rfl⟩⟩
  | a :: as, b => by
    rw [List.foldlM_cons, List.forall_mem_cons, ← hstep b a]
    constructor
    · rintro ⟨c, h⟩
      obtain ⟨d, hd, hc⟩ := bind_eq_ok.mp h
      exact ⟨⟨d, hd⟩, (exists_foldlM_ok_iff hstep as d).mp ⟨c, hc⟩⟩
    · rintro ⟨⟨d, hd⟩, hall⟩
      obtain ⟨c, hc⟩ := (exists_foldlM_ok_iff hstep as d).mpr hall
      exact ⟨c, bind_eq_ok.mpr ⟨d, hd, hc⟩⟩

/-- What every step keeps is kept by a run. -/
theorem foldlM_induct {f : β → α → Except ε β} {kept : β → Prop} : ∀ {as : List α} {b c : β},
    as.foldlM f b = .ok c → kept b →
    (∀ a ∈ as, ∀ b c, f b a = .ok c → kept b → kept c) → kept c
  | [], b, c, h, hb, _ => by
    rw [List.foldlM_nil] at h
    exact Except.ok.inj h ▸ hb
  | a :: as, b, c, h, hb, hstep => by
    rw [List.foldlM_cons] at h
    obtain ⟨d, hd, h⟩ := bind_eq_ok.mp h
    have hkept : kept d := hstep a List.mem_cons_self b d hd hb
    exact foldlM_induct h hkept fun x hx => hstep x (List.mem_cons_of_mem a hx)

/-! ## Which errors there can be -/

/-- A computation fails with no errors but those of a kind. -/
def FailsOnly (P : ε → Prop) (x : Except ε α) : Prop := ∀ e, x = .error e → P e

section FailsOnly

variable {P Q : ε → Prop} {x : Except ε α}

theorem failsOnly_ok (a : α) : FailsOnly P (.ok a) := fun _ h => by cases h

theorem FailsOnly.mono (h : FailsOnly P x) (hPQ : ∀ e, P e → Q e) : FailsOnly Q x :=
  fun e he => hPQ e (h e he)

theorem FailsOnly.bind {f : α → Except ε β} (hx : FailsOnly P x)
    (hf : ∀ a, FailsOnly P (f a)) : FailsOnly P (x >>= f) := fun e h => by
  rcases bind_eq_error.mp h with h | ⟨a, _, h⟩
  · exact hx e h
  · exact hf a e h

theorem FailsOnly.map (hx : FailsOnly P x) (f : α → β) : FailsOnly P (x.map f) :=
  fun e h => hx e (map_eq_error.mp h)

theorem failsOnly_mapM {f : α → Except ε β} {as : List α} (h : ∀ a ∈ as, FailsOnly P (f a)) :
    FailsOnly P (as.mapM f) := fun e he => by
  obtain ⟨a, ha, hfail⟩ := mapM_eq_error he
  exact h a ha e hfail

end FailsOnly

end Muster
