/-
  Substitution: where a parameter is put, and where the placeholder stays.

  1. **Program.**  A core ability is resolved by filling in its templates and reading what comes
     out.  Filling in goes from a template to those among its `mechanics`, and puts the parameter
     where the `value` of one of these is the placeholder.

  2. **Specification.**  `Filled x t w`: `w` is `t` with `x` at these places and all else as it was,
     key for key.  `Missed t`: among the templates that are come to, some other field says the
     placeholder, at any depth.

  3. **What is left.**  If the parameter does not say the placeholder itself, a filled template says
     it exactly if one was missed (`mentions_iff_missed`); and mechanics say it only where their
     document does.  So no text of the mechanics is the placeholder, unless one was missed
     (`resolve_fills`).  The induction is on the value, its fields and its lists together, as for
     substitution itself.

  4. **A condition.**  A modifier whose condition expects the placeholder keeps it.
-/
import Mathlib
import Muster.Proofs.Combat.Collection
import Muster.Proofs.Combat.Echo

namespace Muster.Combat

open Document

/-! ## Filled templates -/

mutual

/-- A template with a value at its places for a parameter, and otherwise as it was. -/
inductive Filled (x : Value) : Value → Value → Prop where
  | object {fs gs : List (Key × Value)} (h : List.Forall₂ (FilledField x) fs gs) :
      Filled x (.object fs) (.object gs)

/-- A field of a template with a value at its places for a parameter. -/
inductive FilledField (x : Value) : Key × Value → Key × Value → Prop where
  | value : FilledField x (.text "value", .text placeholder) (.text "value", x)
  | mechanics {vs ws : List Value} (h : List.Forall₂ (Filled x) vs ws) :
      FilledField x (.text "mechanics", .list vs) (.text "mechanics", .list ws)
  | kept {f : Key × Value} (hvalue : f ≠ (.text "value", .text placeholder))
      (hmechanics : ∀ vs, f ≠ (.text "mechanics", .list vs)) : FilledField x f f

end

theorem isPlaceholder_iff {v : Value} : isPlaceholder v = true ↔ v = .text placeholder := by
  cases v with
  | text s => simp [isPlaceholder]
  | _ => exact iff_of_false nofun nofun

mutual

/-- **Substitution fills in and changes nothing else.** -/
theorem filled_of_substitute (x : Value) : ∀ t w, substitute x t = .ok w → Filled x t w
  | .object fs, _, h => by
    rw [substitute] at h
    split at h
    · cases h
    · obtain ⟨gs, hgs, rfl⟩ := map_eq_ok.mp h
      exact .object (filled_of_substituteFields x fs gs hgs)
  | .null, _, h | .bool _, _, h | .int _, _, h | .double _, _, h | .text _, _, h | .list _, _, h
  | .foreign _, _, h | .bytes _, _, h | .endless, _, h => nomatch h

theorem filled_of_substituteFields (x : Value) : ∀ fs gs, substituteFields x fs = .ok gs →
    List.Forall₂ (FilledField x) fs gs
  | [], _, h => by
    cases h
    exact .nil
  | (k, v) :: fs, _, h => by
    rw [substituteFields] at h
    by_cases hk : k = .text "mechanics"
    · rw [if_pos (beq_iff_eq.mpr hk)] at h
      obtain ⟨w, hw, h⟩ := bind_eq_ok.mp h
      obtain ⟨gs, hgs, h⟩ := bind_eq_ok.mp h
      cases h
      subst hk
      exact .cons (filled_of_substituteNested x v w hw) (filled_of_substituteFields x fs gs hgs)
    · rw [if_neg (by simpa using hk)] at h
      obtain ⟨w, hw, h⟩ := bind_eq_ok.mp h
      obtain ⟨gs, hgs, h⟩ := bind_eq_ok.mp h
      cases hw
      cases h
      refine .cons ?_ (filled_of_substituteFields x fs gs hgs)
      have hother : ∀ vs, (k, v) ≠ (.text "mechanics", .list vs) := by
        rintro vs heq
        exact hk (Prod.mk.inj heq).1
      by_cases hvalue : (k, v) = (.text "value", .text placeholder)
      · obtain ⟨rfl, rfl⟩ := Prod.mk.inj hvalue
        exact .value
      · have hplain : ¬ (k == .text "value" && isPlaceholder v) = true := by
          rw [Bool.and_eq_true, beq_iff_eq, isPlaceholder_iff]
          rintro ⟨rfl, rfl⟩
          exact hvalue rfl
        rw [if_neg hplain]
        exact .kept hvalue hother

theorem filled_of_substituteNested (x : Value) : ∀ v w, substituteNested x v = .ok w →
    FilledField x (.text "mechanics", v) (.text "mechanics", w)
  | .list vs, _, h => by
    rw [substituteNested] at h
    obtain ⟨ws, hws, rfl⟩ := map_eq_ok.mp h
    exact .mechanics (filled_of_substituteAll x vs ws hws)
  | .null, _, h | .bool _, _, h | .int _, _, h | .double _, _, h | .text _, _, h | .object _, _, h
  | .foreign _, _, h | .bytes _, _, h | .endless, _, h => by
    cases h
    exact .kept (by simp) nofun

theorem filled_of_substituteAll (x : Value) : ∀ vs ws, substituteAll x vs = .ok ws →
    List.Forall₂ (Filled x) vs ws
  | [], _, h => by
    cases h
    exact .nil
  | v :: vs, _, h => by
    rw [substituteAll] at h
    obtain ⟨w, hw, h⟩ := bind_eq_ok.mp h
    obtain ⟨ws, hws, h⟩ := bind_eq_ok.mp h
    cases h
    exact .cons (filled_of_substitute x v w hw) (filled_of_substituteAll x vs ws hws)

end

/-! ## Placeholders that stay -/

/-- Substitution comes to a template of which some field says the placeholder, other than by being
    it as the `value`, or by what the templates in its `mechanics` say. -/
def Missed (t : Value) : Prop :=
  ∃ fs, Holds t (.object fs) ∧ ∃ f ∈ fs, Mentions placeholder f.2 ∧
    f ≠ (.text "value", .text placeholder) ∧ ∀ vs, f ≠ (.text "mechanics", .list vs)

/-- A placeholder of a field is missed: it stands elsewhere, or in a template among the field's
    mechanics. -/
def MissedIn (f : Key × Value) : Prop :=
  (Mentions placeholder f.2 ∧ f ≠ (.text "value", .text placeholder) ∧
    ∀ vs, f ≠ (.text "mechanics", .list vs)) ∨
  ∃ vs, f = (.text "mechanics", .list vs) ∧ ∃ v ∈ vs, Missed v

theorem missed_object_iff {fs : List (Key × Value)} :
    Missed (.object fs) ↔ ∃ f ∈ fs, MissedIn f := by
  constructor
  · rintro ⟨gs, hholds, f, hf, hfield⟩
    cases hholds with
    | self => exact ⟨f, hf, Or.inl hfield⟩
    | nested hfs hv hholds => exact ⟨_, hfs, Or.inr ⟨_, rfl, _, hv, gs, hholds, f, hf, hfield⟩⟩
  · rintro ⟨f, hf, hfield | ⟨vs, rfl, v, hv, gs, hholds, g, hg, hfield⟩⟩
    · exact ⟨fs, .self _, f, hf, hfield⟩
    · exact ⟨gs, .nested hf hv hholds, g, hg, hfield⟩

/-- In a field that is kept, what says the placeholder is missed. -/
theorem missedIn_iff_of_kept {f : Key × Value} (hvalue : f ≠ (.text "value", .text placeholder))
    (hmechanics : ∀ vs, f ≠ (.text "mechanics", .list vs)) :
    MissedIn f ↔ Mentions placeholder f.2 := by
  constructor
  · rintro (⟨h, _⟩ | ⟨vs, hvs, _⟩)
    · exact h
    · exact absurd hvs (hmechanics vs)
  · exact fun h => Or.inl ⟨h, hvalue, hmechanics⟩

theorem missedIn_mechanics_iff {vs : List Value} :
    MissedIn (.text "mechanics", .list vs) ↔ ∃ v ∈ vs, Missed v := by
  constructor
  · rintro (⟨_, _, hother⟩ | ⟨ws, hws, h⟩)
    · exact absurd rfl (hother vs)
    · obtain rfl := Value.list.inj (Prod.mk.inj hws).2
      exact h
  · exact fun h => Or.inr ⟨vs, rfl, h⟩

theorem not_missedIn_value : ¬ MissedIn (.text "value", .text placeholder) := by
  rintro (⟨_, hvalue, _⟩ | ⟨vs, hvs, _⟩)
  · exact hvalue rfl
  · have hkey : Key.text "value" = .text "mechanics" := (Prod.mk.inj hvs).1
    exact absurd hkey (by decide)

mutual

/-- **What is left of the placeholder.**  A filled template says it exactly if one was missed, unless
    what was put in says it. -/
theorem mentions_iff_missed {x : Value} (hx : ¬ Mentions placeholder x) : ∀ t w, Filled x t w →
    (Mentions placeholder w ↔ Missed t)
  | .object fs, w, h => by
    cases h with
    | object h =>
      rw [mentions_object_iff, missed_object_iff]
      exact mentions_iff_missed_fields hx fs _ h
  | .null, _, h | .bool _, _, h | .int _, _, h | .double _, _, h | .text _, _, h | .list _, _, h
  | .foreign _, _, h | .bytes _, _, h | .endless, _, h => nomatch h

theorem mentions_iff_missed_fields {x : Value} (hx : ¬ Mentions placeholder x) : ∀ fs gs,
    List.Forall₂ (FilledField x) fs gs →
    ((∃ g ∈ gs, Mentions placeholder g.2) ↔ ∃ f ∈ fs, MissedIn f)
  | [], _, h => by
    cases h
    simp
  | (k, v) :: fs, _, h => by
    cases h with
    | cons hfield hrest =>
      rw [List.exists_mem_cons_iff, List.exists_mem_cons_iff,
        mentions_iff_missedIn hx v k _ hfield, mentions_iff_missed_fields hx fs _ hrest]

theorem mentions_iff_missedIn {x : Value} (hx : ¬ Mentions placeholder x) : ∀ v k g,
    FilledField x (k, v) g → (Mentions placeholder g.2 ↔ MissedIn (k, v))
  | .list vs, k, g, h => by
    cases h with
    | mechanics hall =>
      rw [mentions_list_iff, missedIn_mechanics_iff]
      exact mentions_iff_missed_all hx vs _ hall
    | kept hvalue hmechanics => exact (missedIn_iff_of_kept hvalue hmechanics).symm
  | .text s, k, g, h => by
    cases h with
    | value => exact iff_of_false hx not_missedIn_value
    | kept hvalue hmechanics => exact (missedIn_iff_of_kept hvalue hmechanics).symm
  | .null, _, _, h | .bool _, _, _, h | .int _, _, _, h | .double _, _, _, h | .object _, _, _, h
  | .foreign _, _, _, h | .bytes _, _, _, h | .endless, _, _, h => by
    cases h with
    | kept hvalue hmechanics => exact (missedIn_iff_of_kept hvalue hmechanics).symm

theorem mentions_iff_missed_all {x : Value} (hx : ¬ Mentions placeholder x) : ∀ vs ws,
    List.Forall₂ (Filled x) vs ws →
    ((∃ w ∈ ws, Mentions placeholder w) ↔ ∃ v ∈ vs, Missed v)
  | [], _, h => by
    cases h
    simp
  | v :: vs, _, h => by
    cases h with
    | cons hv hrest =>
      rw [List.exists_mem_cons_iff, List.exists_mem_cons_iff, mentions_iff_missed hx v _ hv,
        mentions_iff_missed_all hx vs _ hrest]

end

/-! ## Resolving -/

theorem toExcept_eq_ok {α : Type} {x : Checked α} {a : α} : x.toExcept = .ok a ↔ x = .ok a := by
  cases x <;> simp [Checked.toExcept]

/-- The mechanics of an ability with a parameter, step by step. -/
theorem exists_of_mechanicsOf {a : CoreAbility} {p : Value} {ms : List Mechanic}
    (h : CoreRegistry.mechanicsOf a (some p) = .ok ms) :
    ∃ x ts, substituteFor p = .ok x ∧ substituteAll x a.templates = .ok ts ∧
      readMechanics (.list ts) = .ok ms := by
  obtain ⟨x, hx, h⟩ := bind_eq_ok.mp h
  obtain ⟨ts, hts, h⟩ := bind_eq_ok.mp h
  have hread := toExcept_eq_ok.mp (mapError_eq_ok.mp h)
  exact ⟨x, ts, mapError_eq_ok.mp hx, mapError_eq_ok.mp hts, hread⟩

/-- **What a parameter does.**  The templates of the ability are filled in and read; unless the
    parameter says the placeholder itself, the filled templates say it exactly if one was missed, and
    the mechanics only if one was. -/
theorem resolve_fills {core : CoreRegistry} {name : String} {p : Value} {ms : List Mechanic}
    (hresolve : core.resolve name (some p) = .ok (some ms)) :
    ∃ a x ts, core.get? name = some a ∧ substituteFor p = .ok x ∧
      List.Forall₂ (Filled x) a.templates ts ∧ readMechanics (.list ts) = .ok ms ∧
      (¬ Mentions placeholder x →
        (Mentions placeholder (.list ts) ↔ ∃ t ∈ a.templates, Missed t) ∧
        (Mentions placeholder (mechanicsValue ms) → ∃ t ∈ a.templates, Missed t)) := by
  rw [CoreRegistry.resolve] at hresolve
  cases hget : core.get? name with
  | none =>
    rw [hget] at hresolve
    cases hresolve
  | some a =>
    rw [hget] at hresolve
    obtain ⟨ns, hns, hsome⟩ := map_eq_ok.mp hresolve
    obtain rfl := Option.some.inj hsome
    obtain ⟨x, ts, hx, hts, hread⟩ := exists_of_mechanicsOf hns
    have hfilled := filled_of_substituteAll x a.templates ts hts
    refine ⟨a, x, ts, rfl, hx, hfilled, hread, fun hclean => ?_⟩
    have hiff : Mentions placeholder (.list ts) ↔ ∃ t ∈ a.templates, Missed t := by
      rw [mentions_list_iff]
      exact mentions_iff_missed_all hclean a.templates ts hfilled
    exact ⟨hiff, fun h => hiff.mp (mentions_of_readMechanics _ ns hread h)⟩

/-- Mortal wounds within a conditional, as a template. -/
def nestedTemplate : Value := .ofFields [
  ("kind", .text "conditional"),
  ("mechanics", .list [
    .ofFields [("kind", .text "mortal-wounds"), ("value", .text placeholder)]])]

/-- All that the nested template leaves to a parameter is a value. -/
theorem not_missed_nestedTemplate : ¬ Missed nestedTemplate := by
  have hkind : ∀ s, s ≠ placeholder → ¬ MissedIn (.text "kind", .text s) := by
    intro s hs
    rw [missedIn_iff_of_kept (by simp) (by simp), mentions_text_iff]
    exact hs
  simp [nestedTemplate, Value.ofFields, missed_object_iff, missedIn_mechanics_iff,
    not_missedIn_value, hkind "conditional" (by decide), hkind "mortal-wounds" (by decide)]

/-- With "D3" put in, the nested template gives mechanics without a placeholder. -/
theorem resolve_nested :
    ∃ core, CoreRegistry.ofDocument (coreDocument "X" [nestedTemplate]) = .ok core ∧
      core.resolve "X" (some (.text "D3"))
        = .ok (some [.conditional .plain [.effect .plain (.mortalWounds (.text "D3"))]]) ∧
      ¬ Mentions placeholder
        (mechanicsValue [.conditional .plain [.effect .plain (.mortalWounds (.text "D3"))]]) := by
  obtain ⟨core, hcore, hget, hresolve⟩ : ∃ core,
      CoreRegistry.ofDocument (coreDocument "X" [nestedTemplate]) = .ok core ∧
      core.get? "X" = some ⟨"X", .plain, "", [nestedTemplate]⟩ ∧
      core.resolve "X" (some (.text "D3"))
        = .ok (some [.conditional .plain [.effect .plain (.mortalWounds (.text "D3"))]]) :=
    ⟨_, rfl, rfl, rfl⟩
  refine ⟨core, hcore, hresolve, fun hmentions => ?_⟩
  obtain ⟨a, x, ts, ha, hx, -, -, hclean⟩ := resolve_fills hresolve
  obtain rfl := Option.some.inj (ha.symm.trans hget)
  have hvalue : substituteFor (.text "D3") = .ok (.text "D3") := rfl
  obtain rfl := Except.ok.inj (hx.symm.trans hvalue)
  have hother : ¬ Mentions placeholder (.text "D3") := by
    rw [mentions_text_iff]
    decide
  obtain ⟨t, ht, hmissed⟩ := (hclean hother).2 hmentions
  rw [List.mem_singleton.mp ht] at hmissed
  exact not_missed_nestedTemplate hmissed

/-- A modifier whose condition expects the parameter, as a template. -/
def rangedTemplate : Value := .ofFields [
  ("kind", .text "modifier"), ("attribute", .text "hit"), ("value", .int 1),
  ("conditions", .list [.ofFields [
    ("attribute", .text "range"), ("operator", .text "lessThanOrEqualTo"),
    ("value", .text placeholder)]])]

/-- The modifier that is read from it, with the placeholder where the parameter should be. -/
def rangedModifier : Mechanic :=
  .effect ⟨.thisUnit, [⟨.thisUnit, none, some "range", [], [], .lessThanOrEqualTo,
    .text placeholder⟩], none⟩ (.modifier .hit 1)

/-- The parameter is a number, and the placeholder stays in the condition. -/
theorem placeholder_in_condition :
    ∃ core, CoreRegistry.ofDocument (coreDocument "X" [rangedTemplate]) = .ok core ∧
      substituteFor (.text "6") = .ok (.int 6) ∧
      core.resolve "X" (some (.text "6")) = .ok (some [rangedModifier]) ∧
      Mentions placeholder (mechanicsValue [rangedModifier]) := by
  refine ⟨_, rfl, rfl, rfl, ?_⟩
  simp [mechanicsValue, mechanicValues, Mechanic.toValue, rangedModifier, Frame.fields,
    Value.ofList, Condition.toValue, Expected.toValue]

end Muster.Combat
