/-
  Expansion: bounded enumeration computes what a walk through the options reaches.

  1. **Program.**  `expand` folds the options over a list of loadouts.  Each step branches every
     loadout, joins the results, keeps first occurrences and compares two counts with the bounds; an
     option that is beyond a bound anywhere leaves the state as it was and is noted.

  2. **Specification**, without lists or bounds on them.  `Exchanged` says what taking items out and
     putting others in comes to, item by item.  `Variant r o l l'` says that option `o` turns `l`
     into `l'`, and `Reaches r os l m` that walking through `os` and at each option either keeping
     the loadout or taking one of its variants leads from `l` to `m`.  `Excessive` says when an
     option is too much for the loadouts at hand, and `Walk` drops exactly the excessive ones.

  3. **The crux** is one step (`widen_ok`, `widen_error`).  A widened list holds what was there and
     its variants, each once, so its length is the number of loadouts reached; and a step fails
     exactly if the option is `Excessive`, though the run may stop at the first loadout that shows
     it.  The run follows by induction on the options, the last one first: whether an option is
     dropped depends on what the options before it reach.
-/
import Mathlib
import Muster.Proofs.Except
import Muster.Proofs.Wargear.Loadout
import Muster.Proofs.Wargear.Selection

namespace Muster.Wargear

open Text

/-! ## One loadout and one option -/

/-- `l'` is `l` with some ids taken out and others put in: what stays keeps its count, and what is
    put in and did not stay counts once. -/
structure Exchanged (l : Loadout) (removed added : List String) (l' : Loadout) : Prop where
  ordered : Loadout.Ordered l'
  count : ∀ a, l'.count a =
    if a ∈ l ∧ a ∉ removed then l.count a else if a ∈ added then 1 else 0

/-- The counts leave no choice: an exchange has one outcome. -/
theorem exchanged_iff {l : Loadout} {removed added : List String} {l' : Loadout} :
    Exchanged l removed added l' ↔ l' = l.change removed added := by
  constructor
  · intro h
    refine h.ordered.eq_of_perm (Loadout.change_ordered l removed added) ?_
    refine List.perm_iff_count.mpr fun a => ?_
    rw [h.count, Loadout.count_change]
  · rintro rfl
    exact ⟨Loadout.change_ordered l removed added, fun a => Loadout.count_change a l removed added⟩

/-- Neither the order nor the repetitions of what is put in matter. -/
theorem Exchanged.congr {l : Loadout} {removed added added' : List String} {l' : Loadout}
    (h : Exchanged l removed added l') (hsame : ∀ a, a ∈ added ↔ a ∈ added') :
    Exchanged l removed added' l' := by
  refine ⟨h.ordered, fun a => ?_⟩
  rw [h.count a, if_congr (hsame a) rfl rfl]

/-- The id that a required name stands for; an article before the name is no part of it. -/
def requiredId (r : Resolver) (name : String) : String :=
  r.resolve (String.ofList (trim (leadingArticle.dropStart name.toList)))

/-- The ids that a loadout must hold to be branched by an option. -/
def requiredIds (r : Resolver) (o : ParsedOption) : List String :=
  if o.targeting.type = "conditional" then
    match o.targeting.condition with
    | none => []
    | some c => c.requiredNames.map (requiredId r)
  else []

/-- A loadout holds what an option requires. -/
def Admits (r : Resolver) (o : ParsedOption) (l : Loadout) : Prop := ∀ id ∈ requiredIds r o, id ∈ l

/-- A loadout holds all that a replacing option takes away. -/
def Holds (r : Resolver) (o : ParsedOption) (l : Loadout) : Prop :=
  ∀ i ∈ o.action.removes, r.resolve i.name ∈ l

/-- `Variant r o l l'`: the option `o` turns the loadout `l` into `l'`. -/
inductive Variant (r : Resolver) (o : ParsedOption) (l l' : Loadout) : Prop where
  /-- All that is taken away is held and goes, and one choice comes. -/
  | replace (type : o.action.type = .replace) (admits : Admits r o l) (holds : Holds r o l)
      (c : Choice) (listed : c ∈ o.action.adds)
      (exchanged : Exchanged l (o.action.removes.map fun i => r.resolve i.name)
        (r.resolveChoice c) l')
  /-- Nothing goes, and the choices of one selection come. -/
  | add (type : o.action.type ≠ .replace) (admits : Admits r o l) (x : Selection o)
      (exchanged : Exchanged l [] (x.choices.flatMap r.resolveChoice) l')

/-- Branching a loadout under an option breaks a bound. -/
inductive Overflows (r : Resolver) (s : Settings) (o : ParsedOption) (l : Loadout) : Prop where
  /-- There are too many choices to replace by. -/
  | choices (type : o.action.type = .replace) (admits : Admits r o l) (holds : Holds r o l)
      (many : s.maxBranching < o.action.adds.length)
  /-- "Up to K" allows more at once than is enumerated. -/
  | count (type : o.action.type ≠ .replace) (admits : Admits r o l) (several : 1 < o.atOnce)
      (many : (s.maxEnumerated : Int) < o.atOnce)
  /-- There are too many selections to add. -/
  | selections (type : o.action.type ≠ .replace) (admits : Admits r o l)
      (many : s.maxBranching < o.offers)

theorem conditionMet_iff {c : Option EquippedCondition} {l : Loadout} {r : Resolver} :
    conditionMet c l r = true ↔
      ∀ d, c = some d → ∀ name ∈ d.requiredNames, requiredId r name ∈ l := by
  cases c with
  | none => simp [conditionMet]
  | some d => simp [conditionMet, requiredId]

/-- The gate of a conditional option is closed exactly to loadouts that it does not admit. -/
theorem gate_closed_iff {r : Resolver} {o : ParsedOption} {l : Loadout} :
    (o.targeting.type == "conditional" && !conditionMet o.targeting.condition l r) = true
      ↔ ¬ Admits r o l := by
  rw [Bool.and_eq_true, beq_iff_eq, Bool.not_eq_true', ← Bool.not_eq_true, conditionMet_iff, Admits,
    requiredIds]
  by_cases htype : o.targeting.type = "conditional"
  · cases hc : o.targeting.condition with
    | none => simp [htype]
    | some c => simp [htype]
  · simp [htype]

/-- What a replacing option makes of a loadout. -/
theorem variants_replace {r : Resolver} {s : Settings} {o : ParsedOption} {l : Loadout}
    (htype : o.action.type = .replace) :
    variants l o r s = .ok (if (o.action.removes.map fun i => r.resolve i.name).all l.contains
      then o.action.adds.map fun c =>
        l.change (o.action.removes.map fun i => r.resolve i.name) (r.resolveChoice c)
      else []) := by
  rw [variants, htype]

/-- What any other option makes of a loadout. -/
theorem variants_add {r : Resolver} {s : Settings} {o : ParsedOption} {l : Loadout}
    (htype : o.action.type ≠ .replace) :
    variants l o r s = (selections o s).map fun found =>
      found.map fun cs => l.change [] (cs.flatMap r.resolveChoice) := by
  cases h : o.action.type with
  | replace => exact absurd h htype
  | add => rw [variants, h]
  | unknown => rw [variants, h]

theorem all_contains_iff_holds {r : Resolver} {o : ParsedOption} {l : Loadout} :
    (o.action.removes.map fun i => r.resolve i.name).all l.contains = true ↔ Holds r o l := by
  simp [Holds]

/-- **The variants that the program lists are the variants**, of a loadout that the option
    admits. -/
theorem mem_variants {r : Resolver} {s : Settings} {o : ParsedOption} {l : Loadout}
    {vs : List Loadout} (h : variants l o r s = .ok vs) (hadmits : Admits r o l) {m : Loadout} :
    m ∈ vs ↔ Variant r o l m := by
  by_cases htype : o.action.type = .replace
  · rw [variants_replace htype] at h
    obtain rfl := (Except.ok.inj h).symm
    by_cases hholds : Holds r o l
    · rw [if_pos (all_contains_iff_holds.mpr hholds), List.mem_map]
      constructor
      · rintro ⟨c, hc, rfl⟩
        exact Variant.replace htype hadmits hholds c hc (exchanged_iff.mpr rfl)
      · rintro (⟨_, _, _, c, hc, hex⟩ | ⟨hadd, _⟩)
        · exact ⟨c, hc, (exchanged_iff.mp hex).symm⟩
        · exact absurd htype hadd
    · rw [if_neg (fun hall => hholds (all_contains_iff_holds.mp hall))]
      refine ⟨fun hm => absurd hm List.not_mem_nil, ?_⟩
      rintro (⟨_, _, hholds', _⟩ | ⟨hadd, _⟩)
      · exact absurd hholds' hholds
      · exact absurd htype hadd
  · rw [variants_add htype] at h
    obtain ⟨found, hfound, rfl⟩ := map_eq_ok.mp h
    rw [List.mem_map]
    constructor
    · rintro ⟨cs, hcs, rfl⟩
      obtain ⟨x, rfl⟩ := exists_selection hfound hcs
      exact Variant.add htype hadmits x (exchanged_iff.mpr rfl)
    · rintro (⟨hreplace, _⟩ | ⟨_, _, x, hex⟩)
      · exact absurd hreplace htype
      · -- the selection may name its positions in any order; the program lists the ascending one
        obtain ⟨cs, hcs, hperm⟩ := exists_mem_selections hfound x
        refine ⟨cs, hcs, (exchanged_iff.mp (hex.congr fun a => ?_)).symm⟩
        rw [(hperm.flatMap_right r.resolveChoice).mem_iff]

/-- A listing of variants that is too long breaks a bound, and one that is not breaks none. -/
theorem length_variants {r : Resolver} {s : Settings} {o : ParsedOption} {l : Loadout}
    {vs : List Loadout} (h : variants l o r s = .ok vs) (hadmits : Admits r o l) :
    s.maxBranching < vs.length ↔ Overflows r s o l := by
  by_cases htype : o.action.type = .replace
  · rw [variants_replace htype] at h
    obtain rfl := (Except.ok.inj h).symm
    by_cases hholds : Holds r o l
    · rw [if_pos (all_contains_iff_holds.mpr hholds), List.length_map]
      constructor
      · exact Overflows.choices htype hadmits hholds
      · rintro (⟨_, _, _, hmany⟩ | ⟨hadd, _⟩ | ⟨hadd, _⟩)
        · exact hmany
        · exact absurd htype hadd
        · exact absurd htype hadd
    · rw [if_neg (fun hall => hholds (all_contains_iff_holds.mp hall))]
      refine ⟨fun hmany => absurd hmany (Nat.not_lt_zero _), ?_⟩
      rintro (⟨_, _, hholds', _⟩ | ⟨hadd, _⟩ | ⟨hadd, _⟩)
      · exact absurd hholds' hholds
      · exact absurd htype hadd
      · exact absurd htype hadd
  · rw [variants_add htype] at h
    obtain ⟨found, hfound, rfl⟩ := map_eq_ok.mp h
    rw [List.length_map, length_selections hfound]
    constructor
    · exact Overflows.selections htype hadmits
    · rintro (⟨hreplace, _⟩ | ⟨_, _, hseveral, hmany⟩ | ⟨_, _, hmany⟩)
      · exact absurd hreplace htype
      · -- the count would have been refused before anything was listed
        obtain ⟨e, he⟩ := selections_error_iff.mpr ⟨hseveral, Or.inl hmany⟩
        rw [hfound] at he
        cases he
      · exact hmany

/-- What a loadout is branched to: itself, where the option does not admit it, else itself and its
    variants, unless there are too many. -/
theorem branches_eq {r : Resolver} {s : Settings} {o : ParsedOption} {l : Loadout} :
    (¬ Admits r o l ∧ branches l o r s = .ok [l]) ∨
    (Admits r o l ∧ branches l o r s = variants l o r s >>= fun vs =>
      if vs.length > s.maxBranching then throw ⟨.variants vs.length, s.maxBranching, o.line⟩
      else return l :: vs) := by
  by_cases hadmits : Admits r o l
  · refine Or.inr ⟨hadmits, ?_⟩
    rw [branches, if_neg (fun hclosed => gate_closed_iff.mp hclosed hadmits)]
  · refine Or.inl ⟨hadmits, ?_⟩
    rw [branches, if_pos (gate_closed_iff.mpr hadmits)]

theorem branches_ok {r : Resolver} {s : Settings} {o : ParsedOption} {l : Loadout}
    {ms : List Loadout} (h : branches l o r s = .ok ms) :
    (∀ m, m ∈ ms ↔ m = l ∨ Variant r o l m) ∧ ¬ Overflows r s o l := by
  rcases branches_eq (r := r) (s := s) (o := o) (l := l) with ⟨hadmits, hb⟩ | ⟨hadmits, hb⟩
  · rw [hb] at h
    obtain rfl := (Except.ok.inj h).symm
    refine ⟨fun m => ?_, ?_⟩
    · rw [List.mem_singleton]
      refine ⟨Or.inl, ?_⟩
      rintro (hm | ⟨_, hadmits', _⟩ | ⟨_, hadmits', _⟩)
      · exact hm
      · exact absurd hadmits' hadmits
      · exact absurd hadmits' hadmits
    · rintro (⟨_, hadmits', _⟩ | ⟨_, hadmits', _⟩ | ⟨_, hadmits', _⟩) <;>
        exact absurd hadmits' hadmits
  · rw [hb] at h
    obtain ⟨vs, hvs, h⟩ := bind_eq_ok.mp h
    split at h
    · cases h
    · rename_i hfew
      obtain rfl := (Except.ok.inj h).symm
      refine ⟨fun m => ?_, fun hover => hfew ((length_variants hvs hadmits).mpr hover)⟩
      rw [List.mem_cons, mem_variants hvs hadmits]

theorem branches_error {r : Resolver} {s : Settings} {o : ParsedOption} {l : Loadout}
    {e : BranchingError} (h : branches l o r s = .error e) : Overflows r s o l := by
  rcases branches_eq (r := r) (s := s) (o := o) (l := l) with ⟨_, hb⟩ | ⟨hadmits, hb⟩
  · rw [hb] at h
    cases h
  · rw [hb] at h
    rcases bind_eq_error.mp h with h | ⟨vs, hvs, h⟩
    · -- only a listing of selections can be refused
      have htype : o.action.type ≠ .replace := by
        intro htype
        rw [variants_replace htype] at h
        cases h
      rw [variants_add htype] at h
      obtain ⟨hseveral, hmany | hmany⟩ := selections_error_iff.mp ⟨e, map_eq_error.mp h⟩
      · exact Overflows.count htype hadmits hseveral hmany
      · exact Overflows.selections htype hadmits hmany
    · split at h
      · rename_i hmany
        exact (length_variants hvs hadmits).mp hmany
      · cases h

/-! ## All loadouts and one option -/

/-- The loadouts that one option makes of some: those there were, and their variants. -/
def Widened (r : Resolver) (o : ParsedOption) (ls : Set Loadout) : Set Loadout :=
  {m | ∃ l ∈ ls, m = l ∨ Variant r o l m}

/-- An option is too much for some loadouts: branching one of them breaks a bound, or too many
    different loadouts would come of it. -/
def Excessive (r : Resolver) (s : Settings) (o : ParsedOption) (ls : Set Loadout) : Prop :=
  (∃ l ∈ ls, Overflows r s o l) ∨ (s.maxLoadouts : ℕ∞) < (Widened r o ls).encard

/-- A list without repetitions is as long as its set is large. -/
theorem encard_of_nodup {ms : List Loadout} (h : ms.Nodup) : {m | m ∈ ms}.encard = ms.length := by
  rw [← List.toFinset_card_of_nodup h, ← Set.encard_coe_eq_coe_finsetCard, List.coe_toFinset]

/-- Where every loadout branches, the joined branches are what the option makes of them. -/
theorem mem_joined {r : Resolver} {s : Settings} {o : ParsedOption} {ls : List Loadout}
    {found : List (List Loadout)}
    (h : List.Forall₂ (fun l ms => branches l o r s = .ok ms) ls found) :
    {m | m ∈ firsts found.flatten} = Widened r o {l | l ∈ ls} := by
  ext m
  rw [Set.mem_ofPred_eq, mem_firsts]
  induction h with
  | nil => simp [Widened]
  | @cons l ms ls found hl _ ih =>
    rw [List.flatten_cons, List.mem_append, ih, (branches_ok hl).1 m]
    simp [Widened]

/-- **One step, taken.**  The widened list holds what the option makes of the loadouts, each once,
    and the option is not too much for them. -/
theorem widen_ok {r : Resolver} {s : Settings} {o : ParsedOption} {ls ms : List Loadout}
    (h : widen ls o r s = .ok ms) :
    ms.Nodup ∧ {m | m ∈ ms} = Widened r o {l | l ∈ ls} ∧ ¬ Excessive r s o {l | l ∈ ls} := by
  obtain ⟨found, hfound, h⟩ := bind_eq_ok.mp h
  have hbranches := mapM_eq_ok.mp hfound
  have hset := mem_joined hbranches
  dsimp only at h
  split at h
  · cases h
  · rename_i hfew
    obtain rfl := (Except.ok.inj h).symm
    refine ⟨nodup_firsts _, hset, ?_⟩
    rintro (⟨l, hl, hover⟩ | hmany)
    · obtain ⟨ms, _, hms⟩ := exists_ok_of_mem hfound hl
      exact (branches_ok hms).2 hover
    · rw [← hset, encard_of_nodup (nodup_firsts _)] at hmany
      exact hfew (by exact_mod_cast hmany)

/-- **One step, refused.**  The option is too much for the loadouts. -/
theorem widen_error {r : Resolver} {s : Settings} {o : ParsedOption} {ls : List Loadout}
    {e : BranchingError} (h : widen ls o r s = .error e) : Excessive r s o {l | l ∈ ls} := by
  rcases bind_eq_error.mp h with h | ⟨found, hfound, h⟩
  · obtain ⟨l, hl, hbranch⟩ := mapM_eq_error h
    exact Or.inl ⟨l, hl, branches_error hbranch⟩
  · dsimp only at h
    split at h
    · rename_i hmany
      refine Or.inr ?_
      rw [← mem_joined (mapM_eq_ok.mp hfound), encard_of_nodup (nodup_firsts _)]
      exact_mod_cast hmany
    · cases h

/-! ## The whole run -/

/-- `Reaches r os l m`: walking through `os`, and at each option either keeping the loadout or
    taking one of its variants, leads from `l` to `m`. -/
inductive Reaches (r : Resolver) : List ParsedOption → Loadout → Loadout → Prop where
  | done {l : Loadout} : Reaches r [] l l
  | keep {o : ParsedOption} {os : List ParsedOption} {l m : Loadout} :
      Reaches r os l m → Reaches r (o :: os) l m
  | take {o : ParsedOption} {os : List ParsedOption} {l l' m : Loadout} :
      Variant r o l l' → Reaches r os l' m → Reaches r (o :: os) l m

/-- `Walk r s base os kept dropped`: of the options `os`, in order, those in `dropped` were too much
    for what the ones kept before them reach from `base`, and those in `kept` were not. -/
inductive Walk (r : Resolver) (s : Settings) (base : Loadout) :
    List ParsedOption → List ParsedOption → List ParsedOption → Prop where
  | start : Walk r s base [] [] []
  | keep {os kept dropped : List ParsedOption} {o : ParsedOption} :
      Walk r s base os kept dropped → ¬ Excessive r s o {l | Reaches r kept base l} →
      Walk r s base (os ++ [o]) (kept ++ [o]) dropped
  | drop {os kept dropped : List ParsedOption} {o : ParsedOption} :
      Walk r s base os kept dropped → Excessive r s o {l | Reaches r kept base l} →
      Walk r s base (os ++ [o]) kept (dropped ++ [o])

/-- A further option at the end widens what is reached. -/
theorem reaches_append_singleton {r : Resolver} {os : List ParsedOption} {o : ParsedOption}
    {l : Loadout} : {m | Reaches r (os ++ [o]) l m} = Widened r o {k | Reaches r os l k} := by
  ext m
  constructor
  · intro h
    induction os generalizing l with
    | nil =>
      cases h with
      | keep h => exact ⟨l, Reaches.done, by cases h; exact Or.inl rfl⟩
      | take hv h => exact ⟨l, Reaches.done, by cases h; exact Or.inr hv⟩
    | cons p os ih =>
      cases h with
      | keep h =>
        obtain ⟨k, hk, hm⟩ := ih h
        exact ⟨k, Reaches.keep hk, hm⟩
      | take hv h =>
        obtain ⟨k, hk, hm⟩ := ih h
        exact ⟨k, Reaches.take hv hk, hm⟩
  · rintro ⟨k, hk, hm⟩
    induction hk with
    | done =>
      rcases hm with rfl | hv
      · exact Reaches.keep Reaches.done
      · exact Reaches.take hv Reaches.done
    | keep _ ih => exact Reaches.keep (ih hm)
    | take hv _ ih => exact Reaches.take hv (ih hm)

theorem expand_append_singleton (base : List String) (os : List ParsedOption) (o : ParsedOption)
    (r : Resolver) (s : Settings) :
    expand base (os ++ [o]) r s = Expanded.step r s (expand base os r s) o := by
  rw [expand, List.foldl_append]
  rfl

/-- A step takes the option or drops it, and drops it exactly if it is too much. -/
theorem step_cases (r : Resolver) (s : Settings) (e : Expanded) (o : ParsedOption) :
    (Excessive r s o {l | l ∈ e.loadouts} ∧
      Expanded.step r s e o = ⟨e.loadouts, e.skipped ++ [o.line]⟩) ∨
    (¬ Excessive r s o {l | l ∈ e.loadouts} ∧ ∃ ms : List Loadout, ms.Nodup ∧
      {m | m ∈ ms} = Widened r o {l | l ∈ e.loadouts} ∧
      Expanded.step r s e o = ⟨ms, e.skipped⟩) := by
  cases h : widen e.loadouts o r s with
  | error err => exact Or.inl ⟨widen_error h, by rw [Expanded.step, h]⟩
  | ok ms =>
    obtain ⟨hnodup, hset, hfew⟩ := widen_ok h
    exact Or.inr ⟨hfew, ms, hnodup, hset, by rw [Expanded.step, h]⟩

/-- A step in terms of lists alone, without the hash set: in this form a run can be evaluated. -/
theorem step_eq (r : Resolver) (s : Settings) : Expanded.step r s = fun e o =>
    match e.loadouts.mapM fun l => branches l o r s with
    | .error _ => ⟨e.loadouts, e.skipped ++ [o.line]⟩
    | .ok found =>
      if found.flatten.eraseDups.length > s.maxLoadouts then
        ⟨e.loadouts, e.skipped ++ [o.line]⟩
      else ⟨found.flatten.eraseDups, e.skipped⟩ := by
  funext e o
  rw [Expanded.step, widen]
  cases e.loadouts.mapM fun l => branches l o r s with
  | error err => rfl
  | ok found =>
    have hbind : ∀ f : List (List Loadout) → Except BranchingError (List Loadout),
        Except.ok found >>= f = f found := fun _ => rfl
    rw [hbind]
    dsimp only
    rw [firsts_eq_eraseDups]
    by_cases hmany : found.flatten.eraseDups.length > s.maxLoadouts
    · rw [if_pos hmany, if_pos hmany]
      rfl
    · rw [if_neg hmany, if_neg hmany]
      rfl

/-- The list of a run holds no loadout twice. -/
theorem nodup_expand (base : List String) (os : List ParsedOption) (r : Resolver) (s : Settings) :
    (expand base os r s).loadouts.Nodup := by
  induction os using List.reverseRecOn with
  | nil => exact List.nodup_singleton _
  | append_singleton os o ih =>
    rw [expand_append_singleton]
    rcases step_cases r s (expand base os r s) o with ⟨_, h⟩ | ⟨_, ms, hnodup, _, h⟩
    · rw [h]
      exact ih
    · rw [h]
      exact hnodup

/-- The run follows a walk: it holds what the kept options reach, and notes the dropped ones. -/
theorem exists_walk (base : List String) (os : List ParsedOption) (r : Resolver) (s : Settings) :
    ∃ kept dropped, Walk r s (Loadout.ofItems base) os kept dropped ∧
      {l | l ∈ (expand base os r s).loadouts} = {l | Reaches r kept (Loadout.ofItems base) l} ∧
      (expand base os r s).skipped = dropped.map ParsedOption.line := by
  induction os using List.reverseRecOn with
  | nil =>
    refine ⟨[], [], Walk.start, ?_, rfl⟩
    ext l
    refine ⟨fun h => ?_, fun h => ?_⟩
    · rw [List.mem_singleton.mp h]
      exact Reaches.done
    · cases h
      exact List.mem_singleton.mpr rfl
  | append_singleton os o ih =>
    obtain ⟨kept, dropped, hwalk, hset, hskipped⟩ := ih
    rw [expand_append_singleton]
    rcases step_cases r s (expand base os r s) o with ⟨hmany, h⟩ | ⟨hfew, ms, _, hms, h⟩
    · rw [hset] at hmany
      refine ⟨kept, dropped ++ [o], hwalk.drop hmany, ?_, ?_⟩
      · rw [h, hset]
      · rw [h, hskipped, List.map_append, List.map_singleton]
    · rw [hset] at hfew hms
      refine ⟨kept ++ [o], dropped, hwalk.keep hfew, ?_, ?_⟩
      · rw [h, hms, reaches_append_singleton]
      · rw [h, hskipped]

theorem Reaches.refl {r : Resolver} (os : List ParsedOption) (l : Loadout) : Reaches r os l l := by
  induction os with
  | nil => exact Reaches.done
  | cons o os ih => exact Reaches.keep ih

/-- **Bounded enumeration refines the plain one.**  A run holds exactly the loadouts that a walk
    from the sorted base reaches through the options that are not dropped, and notes exactly the
    lines of the dropped ones.  At its turn an option leaves the list as it was and is noted exactly
    if it is too much for the loadouts at hand. -/
theorem expand_refines_reaches (base : List String) (os : List ParsedOption) (r : Resolver)
    (s : Settings) :
    (∃ kept dropped, Walk r s (Loadout.ofItems base) os kept dropped ∧
      (∀ l, l ∈ (expand base os r s).loadouts ↔ Reaches r kept (Loadout.ofItems base) l) ∧
      (expand base os r s).skipped = dropped.map ParsedOption.line) ∧
    ∀ o, expand base (os ++ [o]) r s
        = ⟨(expand base os r s).loadouts, (expand base os r s).skipped ++ [o.line]⟩
      ↔ Excessive r s o {l | l ∈ (expand base os r s).loadouts} := by
  refine ⟨?_, fun o => ?_⟩
  · obtain ⟨kept, dropped, hwalk, hset, hskipped⟩ := exists_walk base os r s
    exact ⟨kept, dropped, hwalk, fun l => Set.ext_iff.mp hset l, hskipped⟩
  · rw [expand_append_singleton]
    rcases step_cases r s (expand base os r s) o with ⟨hmany, h⟩ | ⟨hfew, ms, _, _, h⟩
    · exact ⟨fun _ => hmany, fun _ => h⟩
    · refine ⟨fun hdrop => ?_, fun hmany => absurd hmany hfew⟩
      -- a step that takes the option notes nothing
      have hskip := congrArg Expanded.skipped (h.symm.trans hdrop)
      simp at hskip

end Muster.Wargear
