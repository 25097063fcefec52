/-
  Templates: which parameters are read, and which templates can be filled in.

  1. **Parameters.**  `WritesNumber s ds`: without the blanks around it, `s` is a run of decimal
     digits `ds`, perhaps with a plus behind it.  Such a parameter is the number of its digits if
     they are few enough to be read (`parameterValue_of_writesNumber`); every other one is a text
     and cannot fail (`parameterValue_of_not_writesNumber`).  So the parameters that cannot be read
     are those with too many digits, `LongParameter`.

  2. **Substitution.**  It goes from a template to those it holds as its `mechanics`, and nowhere
     else: `Holds t u` says that it comes from `t` to `u`.  It looks at nothing but whether a value
     is an object and how deep it nests, so whether it succeeds does not depend on what is put in
     (`exists_substitute_iff`).  Each template is copied where it is come to, but those within nest
     no deeper than the outermost (`nesting_le_of_holds`), so that `Fillable` asks for the depth of
     that one only.  The induction is on the value, its fields and its lists together.
-/
import Mathlib
import Muster.Combat.Template
import Muster.Proofs.Except
import Muster.Proofs.Text.Pattern

namespace Muster.Combat

open Text Document

/-! ## Parameters -/

/-- A text is a run of digits, perhaps with a plus behind it, and blanks around. -/
structure WritesNumber (s : String) (ds : List Char) : Prop where
  ne_nil : ds ≠ []
  digits : ∀ c ∈ ds, isDecimal c = true
  written : trim s.toList = ds ∨ trim s.toList = ds ++ ['+']

/-- A text of digits, perhaps with a plus, matches as a whole. -/
theorem group_matchStart_plusNumeral {ds r : List Char} (hne : ds ≠ [])
    (hds : ∀ c ∈ ds, isDecimal c = true) (hr : r = [] ∨ r = ['+']) :
    ∃ m, plusNumeral.matchStart (ds ++ r) = some m ∧ m.group 1 = ds := by
  have hstop : ∀ c ∈ r.head?, isDecimal c = false := by
    rcases hr with rfl | rfl
    · intro c hc
      cases hc
    · exact Text.of_mem_head (by decide) _
  refine ⟨⟨ds ++ r, [], [(1, ds ++ r, r)]⟩, ?_, Pattern.Match.group_eq rfl⟩
  refine Pattern.run_longest hne hds hstop (fun b => ?_) none
  rcases hr with rfl | rfl
  · exact Pattern.run_alt_right rfl rfl
  · exact Pattern.run_alt_left rfl _

/-- What is trimmed does not end with a blank. -/
theorem not_isBlank_of_trim_eq {s t : List Char} {c : Char} (h : trim s = t ++ [c]) :
    isBlank c = false := by
  have hreverse : (trimStart s).reverse.dropWhile isBlank = c :: t.reverse := by
    rw [← List.reverse_reverse (List.dropWhile _ _), show List.reverse _ = t ++ [c] from h,
      List.reverse_append]
    rfl
  have hhead := List.head?_dropWhile_not isBlank (trimStart s).reverse
  rw [hreverse] at hhead
  simpa using hhead

/-- What matches as a number is digits, perhaps with a plus. -/
theorem exists_digits_of_matchStart {s : List Char} {m : Pattern.Match}
    (h : plusNumeral.matchStart (trim s) = some m) :
    ∃ ds, ds ≠ [] ∧ (∀ c ∈ ds, isDecimal c = true) ∧ (trim s = ds ∨ trim s = ds ++ ['+']) := by
  have hrun : (Pattern.group 1 (.longest isDecimal) ++ .opt (.char '+')).run ⟨none, trim s, []⟩
      (fun t => Pattern.textEnd.run t fun t => some ⟨trim s, t.rest, t.groups⟩) = some m := h
  obtain ⟨t, hleads, hend⟩ := Pattern.exists_of_run _ hrun
  obtain ⟨u, hu, v, w, rfl, ⟨d, ds, rfl, ⟨c, hc, rfl⟩, hds⟩, hw⟩ := hleads.reads
  have htrim : trim s = [c] ++ ds ++ w ++ t.rest := hu
  -- a line break at the end would have been trimmed
  have hrest : t.rest = [] := (Pattern.rest_of_run_textEnd hend).resolve_right fun hbreak => by
    rw [hbreak] at htrim
    exact absurd (not_isBlank_of_trim_eq htrim) (by decide)
  rw [hrest, List.append_nil] at htrim
  refine ⟨[c] ++ ds, List.cons_ne_nil c ds, ?_, ?_⟩
  · intro e he
    rcases List.mem_cons.mp he with rfl | he
    · exact hc
    · exact hds e he
  · rcases hw with ⟨e, hplus, rfl⟩ | rfl
    · obtain rfl : e = '+' := Pattern.foldChar_eq_of_not_alpha (by decide) (beq_iff_eq.mp hplus)
      exact Or.inr htrim
    · exact Or.inl (htrim.trans (List.append_nil _))

/-- A parameter that is a number is the number of its digits, if these can be read. -/
theorem parameterValue_of_writesNumber {s : String} {ds : List Char} (h : WritesNumber s ds) :
    parameterValue s = (do
      let n ← readNumeral ds
      return .integer n) := by
  obtain ⟨r, hr, hs⟩ : ∃ r, (r = [] ∨ r = ['+']) ∧ trim s.toList = ds ++ r := by
    rcases h.written with hs | hs
    · exact ⟨[], Or.inl rfl, hs.trans (List.append_nil ds).symm⟩
    · exact ⟨['+'], Or.inr rfl, hs⟩
  obtain ⟨m, hm, hgroup⟩ := group_matchStart_plusNumeral h.ne_nil h.digits hr
  rw [parameterValue, hs, hm]
  dsimp only
  rw [hgroup]

example : parameterValue " 5+ " = .ok (.integer 5) := rfl

/-- Every other parameter is a text. -/
theorem parameterValue_of_not_writesNumber {s : String} (h : ∀ ds, ¬ WritesNumber s ds) :
    parameterValue s = .ok (.text (String.ofList (trim s.toList))) := by
  rw [parameterValue]
  cases hm : plusNumeral.matchStart (trim s.toList) with
  | none => rfl
  | some m =>
    obtain ⟨ds, hne, hdigits, hwritten⟩ := exists_digits_of_matchStart hm
    exact absurd ⟨hne, hdigits, hwritten⟩ (h ds)

/-- Whether a parameter is a number of more digits than are read. -/
def LongParameter (s : String) : Prop := ∃ ds, WritesNumber s ds ∧ mostDigits < ds.length

/-- **Which parameters are read**: all but numbers of too many digits. -/
theorem exists_parameterValue_iff (s : String) :
    (∃ x, parameterValue s = .ok x) ↔ ¬ LongParameter s := by
  by_cases hnumber : ∃ ds, WritesNumber s ds
  · obtain ⟨ds, hds⟩ := hnumber
    constructor
    · rintro ⟨x, hx⟩ ⟨es, hes, hlong⟩
      rw [parameterValue_of_writesNumber hes, readNumeral, if_pos hlong] at hx
      cases hx
    · intro hshort
      rw [parameterValue_of_writesNumber hds, readNumeral,
        if_neg fun hlong => hshort ⟨ds, hds, hlong⟩]
      exact ⟨_, rfl⟩
  · have hnone : ∀ ds, ¬ WritesNumber s ds := fun ds hds => hnumber ⟨ds, hds⟩
    rw [parameterValue_of_not_writesNumber hnone]
    exact iff_of_true ⟨_, rfl⟩ fun ⟨ds, hds, _⟩ => hnone ds hds

/-- The value of a parameter is put in as a number or a text. -/
theorem exists_substituteFor_iff (s : String) :
    (∃ x, substituteFor (.text s) = .ok x) ↔ ¬ LongParameter s := by
  rw [← exists_parameterValue_iff, substituteFor]
  cases parameterValue s with
  | error e => exact iff_of_false nofun nofun
  | ok x => cases x <;> exact iff_of_true ⟨_, rfl⟩ ⟨_, rfl⟩

/-! ## Substitution -/

/-- Whether a value is an object. -/
def IsObject (v : Value) : Prop := ∃ fs, v = .object fs

/-- Substitution comes from one value to another: it begins there, or comes to an object with the
    other among the mechanics of the object. -/
inductive Holds : Value → Value → Prop where
  | self (t : Value) : Holds t t
  | nested {fs : List (Key × Value)} {vs : List Value} {v t : Value}
      (hfs : (.text "mechanics", .list vs) ∈ fs) (hv : v ∈ vs) (h : Holds v t) :
      Holds (.object fs) t

/-! ### Nesting -/

theorem nesting_le_nestingOfItems {v : Value} {vs : List Value} (h : v ∈ vs) :
    v.nesting ≤ Value.nestingOfItems vs := by
  induction h with
  | head => exact le_max_left _ _
  | tail _ _ ih => exact ih.trans (le_max_right _ _)

theorem nesting_le_nestingOfFields {f : Key × Value} {fs : List (Key × Value)} (h : f ∈ fs) :
    f.2.nesting ≤ Value.nestingOfFields fs := by
  induction h with
  | head => exact le_max_left _ _
  | tail _ _ ih => exact ih.trans (le_max_right _ _)

/-- A template among the mechanics of another nests no deeper. -/
theorem nesting_le_of_mechanics {fs : List (Key × Value)} {vs : List Value} {v : Value}
    (hfs : (.text "mechanics", .list vs) ∈ fs) (hv : v ∈ vs) :
    v.nesting ≤ (Value.object fs).nesting :=
  calc v.nesting
    _ ≤ Value.nestingOfItems vs := nesting_le_nestingOfItems hv
    _ ≤ (Value.list vs).nesting := Nat.le_succ _
    _ ≤ Value.nestingOfFields fs := nesting_le_nestingOfFields hfs
    _ ≤ (Value.object fs).nesting := Nat.le_succ _

/-- **The outermost template nests deepest** of all that substitution comes to. -/
theorem nesting_le_of_holds {t u : Value} (h : Holds t u) : u.nesting ≤ t.nesting := by
  induction h with
  | self => exact le_rfl
  | nested hfs hv _ ih => exact ih.trans (nesting_le_of_mechanics hfs hv)

/-! ### Success -/

/-- Whether a value can go in for the placeholder of a template. -/
structure Fillable (t : Value) : Prop where
  /-- The template can be copied. -/
  copied : t.nesting ≤ deepestCopy
  /-- Substitution comes to nothing but objects. -/
  objects : ∀ u, Holds t u → IsObject u

theorem fillable_object_iff {fs : List (Key × Value)} :
    Fillable (.object fs) ↔ (Value.object fs).nesting ≤ deepestCopy ∧
      ∀ vs, (.text "mechanics", .list vs) ∈ fs → ∀ v ∈ vs, Fillable v := by
  constructor
  · refine fun h => ⟨h.copied, fun vs hvs v hv => ⟨?_, fun u hu => ?_⟩⟩
    · exact (nesting_le_of_mechanics hvs hv).trans h.copied
    · exact h.objects u (.nested hvs hv hu)
  · rintro ⟨hcopied, h⟩
    refine ⟨hcopied, fun u hu => ?_⟩
    cases hu with
    | self => exact ⟨fs, rfl⟩
    | nested hfs hv hu => exact (h _ hfs _ hv).objects _ hu

theorem not_fillable {v : Value} (h : ¬ IsObject v) : ¬ Fillable v :=
  fun hfill => h (hfill.objects v (.self v))

/-- The lists that are gone into below some fields. -/
theorem forall_mechanics_cons {kept : List Value → Prop} {k : Key} {v : Value}
    {fs : List (Key × Value)} :
    (∀ vs, (.text "mechanics", .list vs) ∈ (k, v) :: fs → kept vs) ↔
      (k = .text "mechanics" → ∀ vs, v = .list vs → kept vs) ∧
      ∀ vs, (.text "mechanics", .list vs) ∈ fs → kept vs := by
  constructor
  · intro h
    refine ⟨fun hk vs hv => h vs ?_, fun vs hvs => h vs (List.mem_cons_of_mem _ hvs)⟩
    rw [hk, hv]
    exact List.mem_cons_self
  · rintro ⟨hv, hfs⟩ vs hvs
    rcases List.mem_cons.mp hvs with heq | hvs
    · obtain ⟨hk, hlist⟩ := Prod.mk.inj heq
      exact hv hk.symm vs hlist.symm
    · exact hfs vs hvs

mutual

/-- **Which templates can be filled in**, whatever goes in for the placeholder. -/
theorem exists_substitute_iff (x : Value) : ∀ t, (∃ w, substitute x t = .ok w) ↔ Fillable t
  | .object fs => by
    rw [substitute, fillable_object_iff]
    by_cases hdeep : deepestCopy < (Value.object fs).nesting
    · rw [if_pos hdeep]
      exact iff_of_false nofun fun h => absurd hdeep h.1.not_gt
    · rw [if_neg hdeep, exists_map_ok_iff, exists_substituteFields_iff x fs]
      exact (and_iff_right (not_lt.mp hdeep)).symm
  | .null | .bool _ | .int _ | .double _ | .text _ | .list _ | .foreign _ | .bytes _ | .endless =>
    iff_of_false nofun (not_fillable nofun)

theorem exists_substituteFields_iff (x : Value) : ∀ fs,
    (∃ gs, substituteFields x fs = .ok gs) ↔
      ∀ vs, (.text "mechanics", .list vs) ∈ fs → ∀ v ∈ vs, Fillable v
  | [] => iff_of_true ⟨[], rfl⟩ fun _ hvs => absurd hvs List.not_mem_nil
  | (k, v) :: fs => by
    rw [substituteFields, forall_mechanics_cons, ← exists_substituteFields_iff x fs]
    by_cases hk : k = .text "mechanics"
    · -- the only field that is gone into
      rw [if_pos (beq_iff_eq.mpr hk)]
      refine exists_bind_ok_iff.trans (and_congr_left fun _ => ?_)
      rw [exists_substituteNested_iff x v]
      exact ⟨fun h _ => h, fun h => h hk⟩
    · rw [if_neg (by simpa using hk)]
      refine exists_bind_ok_iff.trans (and_congr_left fun _ => ?_)
      exact iff_of_true ⟨_, rfl⟩ fun h => absurd h hk

theorem exists_substituteNested_iff (x : Value) : ∀ v,
    (∃ w, substituteNested x v = .ok w) ↔ ∀ vs, v = .list vs → ∀ u ∈ vs, Fillable u
  | .list vs => by
    rw [substituteNested, exists_map_ok_iff, exists_substituteAll_iff x vs]
    exact ⟨fun h ws hws => Value.list.inj hws ▸ h, fun h => h vs rfl⟩
  | .null | .bool _ | .int _ | .double _ | .text _ | .object _ | .foreign _ | .bytes _ | .endless =>
    iff_of_true ⟨_, rfl⟩ nofun

theorem exists_substituteAll_iff (x : Value) : ∀ vs,
    (∃ ws, substituteAll x vs = .ok ws) ↔ ∀ v ∈ vs, Fillable v
  | [] => iff_of_true ⟨[], rfl⟩ nofun
  | v :: vs => by
    rw [substituteAll, List.forall_mem_cons, exists_bind_ok_iff, exists_substitute_iff x v,
      exists_substituteAll_iff x vs]

end

end Muster.Combat
