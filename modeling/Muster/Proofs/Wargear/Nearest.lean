/-
  Nearest: which candidate a verdict suggests, and that the order of a loadout is of no account.

  1. **Program.**  Where no candidate is a permutation of the loadout, one pass over the candidates
     keeps the best so far: the next one takes its place only if its score is HIGHER.

  2. **Specification**, without a pass.  `candidates` lists what the groups offer to a model type,
     the group for any model first.  `nearness` counts items: those of the loadout that a candidate
     offers, less those missing, less those too many.  `Earliest near cs c` says that `c` stands in
     `cs`, that nothing there is nearer, and that all before it are less near.

  3. **The crux** (`Earliest.nearer`) is one step of the pass: the earliest best of what has been
     seen stays so when one candidate more is seen, or gives way to it.  The pass follows by
     induction on the candidates still to come (`earliest_foldl`).

  4. **Two runs.**  A loadout enters a verdict by what it holds and how often, except that the extra
     items are listed in its own order.  So a permuted loadout gets the same verdict with the extra
     items permuted (`alike_validateLoadout`).

  5. **Two searches.**  Nothing is nearer to a loadout than its own length, and only a candidate
     with nothing to add and nothing to take away is so near (`score_eq_length_iff`).  Without
     repeated items these are the permutations of the loadout, so the first of them is what both
     searches find (`findExact_eq_some_iff_findClosest`).
-/
import Mathlib
import Muster.Proofs.Wargear.Validation

namespace Muster.Wargear

/-! ## Nearness -/

/-- How near a candidate is to a loadout: the items of the loadout that it offers, less its own that
    the loadout lacks, less those of the loadout that it does not offer.  Each occurrence counts. -/
def nearness (loadout candidate : List String) : Int :=
  (loadout.countP fun a => a ∈ candidate : Int)
    - (candidate.countP fun a => a ∉ loadout : Int) - (loadout.countP fun a => a ∉ candidate : Int)

theorem score_eq_nearness (l c : List String) : score l c = nearness l c := by
  have hoffered : l.countP c.contains = l.countP fun a => a ∈ c := by
    refine List.countP_congr fun a _ => ?_
    simp
  have hmissing : (compareWith l c).missing.length = c.countP fun a => a ∉ l := by
    show (c.filter fun a => !l.contains a).length = _
    rw [← List.countP_eq_length_filter]
    refine List.countP_congr fun a _ => ?_
    simp
  have hextra : (compareWith l c).extra.length = l.countP fun a => a ∉ c := by
    show (l.filter fun a => !c.contains a).length = _
    rw [← List.countP_eq_length_filter]
    refine List.countP_congr fun a _ => ?_
    simp
  unfold score nearness
  dsimp only
  rw [hoffered, hmissing, hextra]
  omega

/-! ## The earliest best -/

/-- `c` is the earliest of the nearest in a list: nothing in the list is nearer, and all that stands
    before it is less near. -/
def Earliest (near : Loadout → Int) (cs : List Loadout) (c : Loadout) : Prop :=
  ∃ before after, cs = before ++ c :: after ∧
    (∀ k ∈ cs, near k ≤ near c) ∧ ∀ k ∈ before, near k < near c

namespace Earliest

theorem singleton (near : Loadout → Int) (c : Loadout) : Earliest near [c] c := by
  refine ⟨[], [], rfl, ?_, ?_⟩
  · intro k hk
    rw [List.mem_singleton.mp hk]
  · intro k hk
    exact absurd hk List.not_mem_nil

theorem mem {near : Loadout → Int} {cs : List Loadout} {c : Loadout} (h : Earliest near cs c) :
    c ∈ cs := by
  obtain ⟨before, after, rfl, _, _⟩ := h
  exact List.mem_append_right before List.mem_cons_self

/-- A nearer candidate takes the place of the best so far. -/
theorem concat_of_lt {near : Loadout → Int} {seen : List Loadout} {b k : Loadout}
    (h : Earliest near seen b) (hlt : near b < near k) : Earliest near (seen ++ [k]) k := by
  obtain ⟨_, _, _, hmost, _⟩ := h
  -- everything seen is at most as near as `b`, so all of it stands before `k`
  have hbelow : ∀ m ∈ seen, near m < near k := by
    intro m hm
    have hle := hmost m hm
    omega
  refine ⟨seen, [], rfl, ?_, hbelow⟩
  intro m hm
  rcases List.mem_append.mp hm with hm | hm
  · exact Int.le_of_lt (hbelow m hm)
  · rw [List.mem_singleton.mp hm]

/-- A candidate that is not nearer changes nothing, also if it is equally near. -/
theorem concat_of_le {near : Loadout → Int} {seen : List Loadout} {b k : Loadout}
    (h : Earliest near seen b) (hle : near k ≤ near b) : Earliest near (seen ++ [k]) b := by
  obtain ⟨before, after, rfl, hmost, hbefore⟩ := h
  refine ⟨before, after ++ [k], by rw [List.append_assoc, List.cons_append], ?_, hbefore⟩
  intro m hm
  rcases List.mem_append.mp hm with hm | hm
  · exact hmost m hm
  · rw [List.mem_singleton.mp hm]
    exact hle

/-- **One step of the pass** keeps the earliest best of what has been seen. -/
theorem nearer {l : List String} {seen : List Loadout} {b : Loadout}
    (h : Earliest (score l) seen b) (k : Loadout) :
    ∃ c, Wargear.nearer l (some b) k = some c ∧ Earliest (score l) (seen ++ [k]) c := by
  unfold Wargear.nearer
  dsimp only
  split
  · rename_i hlt
    exact ⟨k, rfl, h.concat_of_lt hlt⟩
  · rename_i hnot
    have hle : score l k ≤ score l b := by omega
    exact ⟨b, rfl, h.concat_of_le hle⟩

end Earliest

/-- **The whole pass**: from the best of what has been seen to the best of all. -/
theorem earliest_foldl {l : List String} : ∀ (cs : List Loadout) {seen : List Loadout} {b : Loadout},
    Earliest (score l) seen b →
    ∃ c, cs.foldl (nearer l) (some b) = some c ∧ Earliest (score l) (seen ++ cs) c
  | [], seen, b, h => ⟨b, rfl, by rwa [List.append_nil]⟩
  | k :: ks, seen, b, h => by
    obtain ⟨d, hstep, hd⟩ := h.nearer k
    obtain ⟨c, hrun, hc⟩ := earliest_foldl ks hd
    refine ⟨c, ?_, ?_⟩
    · rw [List.foldl_cons, hstep, hrun]
    · rwa [List.append_assoc, List.singleton_append] at hc

/-- Where there are candidates, the loadout is compared with the earliest of the nearest. -/
theorem exists_findClosest (l : List String) {cs : List Loadout} (hsome : cs ≠ []) :
    ∃ c, findClosest l cs = some (compareWith l c) ∧ Earliest (score l) cs c := by
  obtain ⟨k, ks, rfl⟩ := List.exists_cons_of_ne_nil hsome
  obtain ⟨c, hrun, hc⟩ := earliest_foldl ks (Earliest.singleton (score l) k)
  refine ⟨c, ?_, hc⟩
  show (ks.foldl (nearer l) (some k)).map (compareWith l) = _
  rw [hrun, Option.map_some]

/-- **What a verdict says of a loadout that is not valid**: nothing that is offered is a permutation
    of it, and it is compared with the earliest of the nearest candidates. -/
theorem verdict_of_not_valid {modelType : String} {loadout : List String} {gs : List Group}
    (hinvalid : (validateLoadout modelType loadout gs).isValid = false) :
    (∀ c ∈ offered modelType gs, ¬ loadout.Perm c) ∧
    ∃ c g, Earliest (score loadout) (offered modelType gs) c ∧
      validateLoadout modelType loadout gs
        = ⟨false, some g, some c, (compareWith loadout c).missing, (compareWith loadout c).extra⟩ := by
  have hneither : ¬ (offered modelType gs = [] ∨ ∃ c ∈ offered modelType gs, loadout.Perm c) := by
    rw [← isValid_iff_offered, hinvalid]
    exact Bool.false_ne_true
  obtain ⟨hsome, hno⟩ := not_or.mp hneither
  cases hcand : candidateGroup modelType gs with
  | none => exact absurd (candidateGroup_eq_none_iff.mp hcand) hsome
  | some g =>
    have hitems : g.items = offered modelType gs := items_candidateGroup hcand
    have hexact : findExact loadout g.items = none := by
      rw [← Option.not_isSome_iff_eq_none, findExact_isSome_iff, hitems]
      exact hno
    obtain ⟨c, hclosest, hc⟩ := exists_findClosest loadout hsome
    refine ⟨fun k hk hperm => hno ⟨k, hk, hperm⟩, c, g, hc, ?_⟩
    rw [validateLoadout, hcand]
    dsimp only
    rw [verdictIn, hexact, hitems, hclosest]
    rfl

/-! ## Candidates in order -/

/-- The candidates of a model type: what the group for any model offers, and then what the groups
    that match the type by name offer, in the order of the groups. -/
def candidates (modelType : String) (gs : List Group) : List Loadout :=
  (gs.filter fun g => g.modelType = anyModel).flatMap Group.items ++
  (gs.filter fun g => g.modelType ≠ anyModel ∧ matchesGroup modelType g.modelType = true).flatMap
    Group.items

/-- At most one group is for any model. -/
def AtMostOneAny (gs : List Group) : Prop := (gs.filter fun g => g.modelType = anyModel).length ≤ 1

theorem AtMostOneAny.oneAnyGroup {gs : List Group} (h : AtMostOneAny gs) : OneAnyGroup gs := by
  intro g hg k hk hgany hkany
  have hgmem : g ∈ gs.filter fun g => g.modelType = anyModel :=
    List.mem_filter.mpr ⟨hg, decide_eq_true hgany⟩
  have hkmem : k ∈ gs.filter fun g => g.modelType = anyModel :=
    List.mem_filter.mpr ⟨hk, decide_eq_true hkany⟩
  obtain ⟨i, hi, rfl⟩ := List.mem_iff_getElem.mp hgmem
  obtain ⟨j, hj, rfl⟩ := List.mem_iff_getElem.mp hkmem
  have hone : (gs.filter fun g => g.modelType = anyModel).length ≤ 1 := h
  have hij : i = j := by omega
  subst hij
  rfl

/-- The first group for any model is all there is of them. -/
theorem items_anyGroup {gs : List Group} (h : AtMostOneAny gs) :
    ((anyGroup? gs).map Group.items).getD []
      = (gs.filter fun g => g.modelType = anyModel).flatMap Group.items := by
  have hfirst : anyGroup? gs = (gs.filter fun g => g.modelType = anyModel).head? := by
    rw [List.head?_filter]
    rfl
  unfold AtMostOneAny at h
  rw [hfirst]
  generalize (gs.filter fun g => g.modelType = anyModel) = anys at h ⊢
  cases anys with
  | nil => rfl
  | cons g rest =>
    have hrest : rest = [] := by
      rw [List.length_cons] at h
      exact List.length_eq_zero_iff.mp (by omega)
    subst hrest
    simp

theorem offered_eq_candidates {modelType : String} {gs : List Group} (h : AtMostOneAny gs) :
    offered modelType gs = candidates modelType gs := by
  have hspecific : specificGroups modelType gs
      = gs.filter fun g => g.modelType ≠ anyModel ∧ matchesGroup modelType g.modelType = true := by
    refine List.filter_congr fun g hg => ?_
    have hiff := @mem_specificGroups modelType gs g
    rw [specificGroups, List.mem_filter] at hiff
    rw [Bool.eq_iff_iff, decide_eq_true_eq]
    exact ⟨fun hname => (hiff.mp ⟨hg, hname⟩).2, fun hname => (hiff.mpr ⟨hg, hname⟩).2⟩
  rw [offered, items_anyGroup h, hspecific, candidates]

/-- Something is offered unless no group that matches holds anything. -/
theorem offered_eq_nil_iff {modelType : String} {gs : List Group} (hone : OneAnyGroup gs) :
    offered modelType gs = [] ↔
      ∀ g ∈ gs, matchesGroup modelType g.modelType = true → g.items = [] := by
  constructor
  · intro hnil g hg hmatch
    refine List.eq_nil_iff_forall_not_mem.mpr fun l hl => ?_
    have hoffered : l ∈ offered modelType gs := (mem_offered hone).mpr ⟨g, hg, hmatch, hl⟩
    rw [hnil] at hoffered
    exact absurd hoffered List.not_mem_nil
  · intro hempty
    refine List.eq_nil_iff_forall_not_mem.mpr fun l hl => ?_
    obtain ⟨g, hg, hmatch, hitem⟩ := (mem_offered hone).mp hl
    rw [hempty g hg hmatch] at hitem
    exact absurd hitem List.not_mem_nil

/-! ## Permuted loadouts -/

section Permuted

variable {l m : List String} (h : l.Perm m)

include h

theorem findExact_perm (cs : List Loadout) : findExact l cs = findExact m cs := by
  have hsorted : Loadout.ofItems l = Loadout.ofItems m := Loadout.ofItems_eq_iff.mpr h
  rw [findExact, findExact, hsorted]

theorem missing_perm (c : List String) : (compareWith l c).missing = (compareWith m c).missing := by
  refine List.filter_congr fun a _ => ?_
  rw [h.contains_eq]

theorem extra_perm (c : List String) :
    (compareWith l c).extra.Perm (compareWith m c).extra := h.filter _

theorem score_perm (c : List String) : score l c = score m c := by
  unfold score
  dsimp only
  rw [missing_perm h, (extra_perm h c).length_eq, h.countP_eq]

/-- So the pass keeps the same candidates. -/
theorem nearer_perm : nearer l = nearer m := by
  funext best c
  cases best with
  | none => rfl
  | some b =>
    unfold nearer
    dsimp only
    rw [score_perm h, score_perm h]

end Permuted

/-- Two verdicts say the same, but for the order of the extra items. -/
structure Verdict.Alike (v w : Verdict) : Prop where
  isValid : v.isValid = w.isValid
  matchedGroup : v.matchedGroup = w.matchedGroup
  closestMatch : v.closestMatch = w.closestMatch
  missingItems : v.missingItems = w.missingItems
  extraItems : v.extraItems.Perm w.extraItems

theorem Verdict.Alike.refl (v : Verdict) : v.Alike v := ⟨rfl, rfl, rfl, rfl, List.Perm.refl _⟩

/-- **Permuted loadouts get verdicts that are alike.** -/
theorem alike_validateLoadout (modelType : String) (gs : List Group) {l m : List String}
    (h : l.Perm m) : (validateLoadout modelType l gs).Alike (validateLoadout modelType m gs) := by
  unfold validateLoadout
  cases candidateGroup modelType gs with
  | none => exact Verdict.Alike.refl _
  | some g =>
    dsimp only
    unfold verdictIn findClosest
    rw [findExact_perm h, nearer_perm h]
    cases findExact m g.items with
    | some c => exact Verdict.Alike.refl _
    | none =>
      dsimp only
      cases g.items.foldl (nearer m) none with
      | none => exact Verdict.Alike.refl _
      | some c => exact ⟨rfl, rfl, rfl, missing_perm h c, extra_perm h c⟩

/-! ## The verdict as a whole -/

/-- **Validation is exact matching with an optimal suggestion.**  A loadout is valid exactly if no
    group that matches its model type offers anything, or one of them offers a permutation of it.
    The suggestion for a loadout that is not valid is the earliest of the nearest candidates, with
    what the loadout lacks of it and has beyond it.  The order of the loadout matters to none of
    this, but that the extra items are listed in it. -/
theorem validate_exactly_or_nearest {modelType : String} {loadout : List String} {gs : List Group}
    (hone : AtMostOneAny gs) :
    ((validateLoadout modelType loadout gs).isValid = true ↔
      (∀ g ∈ gs, matchesGroup modelType g.modelType = true → g.items = []) ∨
      ∃ g ∈ gs, matchesGroup modelType g.modelType = true ∧ ∃ c ∈ g.items, loadout.Perm c) ∧
    ((validateLoadout modelType loadout gs).isValid = false → ∃ c,
      Earliest (nearness loadout) (candidates modelType gs) c ∧
      (validateLoadout modelType loadout gs).closestMatch = some c ∧
      (validateLoadout modelType loadout gs).missingItems = c.filter (· ∉ loadout) ∧
      (validateLoadout modelType loadout gs).extraItems = loadout.filter (· ∉ c)) ∧
    ∀ permuted : List String, loadout.Perm permuted →
      (validateLoadout modelType loadout gs).Alike (validateLoadout modelType permuted gs) := by
  refine ⟨?_, ?_, fun permuted hperm => alike_validateLoadout modelType gs hperm⟩
  · have hsome : (∃ c ∈ offered modelType gs, loadout.Perm c) ↔
        ∃ g ∈ gs, matchesGroup modelType g.modelType = true ∧ ∃ c ∈ g.items, loadout.Perm c := by
      constructor
      · rintro ⟨c, hc, hperm⟩
        obtain ⟨g, hg, hmatch, hitem⟩ := (mem_offered hone.oneAnyGroup).mp hc
        exact ⟨g, hg, hmatch, c, hitem, hperm⟩
      · rintro ⟨g, hg, hmatch, c, hitem, hperm⟩
        exact ⟨c, (mem_offered hone.oneAnyGroup).mpr ⟨g, hg, hmatch, hitem⟩, hperm⟩
    rw [isValid_iff_offered, offered_eq_nil_iff hone.oneAnyGroup, hsome]
  · intro hinvalid
    obtain ⟨_, c, g, hc, hverdict⟩ := verdict_of_not_valid hinvalid
    have hscore : score loadout = nearness loadout := funext fun k => score_eq_nearness loadout k
    rw [hscore, offered_eq_candidates hone] at hc
    rw [hverdict]
    refine ⟨c, hc, rfl, ?_, ?_⟩
    · refine List.filter_congr fun a _ => ?_
      simp
    · refine List.filter_congr fun a _ => ?_
      simp

/-- Of two candidates that are equally near a veteran with a spare pistol, the one for any model
    counts, though its group comes later; and it counts for the loadout in another order as well. -/
theorem nearest_veteran :
    let gs : List Group :=
      [⟨"Veteran", [["axe", "shield"]], none⟩, ⟨anyModel, [["bolter"], ["axe", "knife"]], none⟩]
    AtMostOneAny gs ∧ (validateLoadout "Veteran" ["pistol", "axe"] gs).isValid = false ∧
      Earliest (nearness ["pistol", "axe"]) (candidates "Veteran" gs) ["axe", "knife"] ∧
      ["pistol", "axe"].Perm ["axe", "pistol"] ∧
      (validateLoadout "Veteran" ["axe", "pistol"] gs).closestMatch = some ["axe", "knife"] := by
  intro gs
  have hone : AtMostOneAny gs := by unfold AtMostOneAny; decide +kernel
  have hinvalid : (validateLoadout "Veteran" ["pistol", "axe"] gs).isValid = false := by
    decide +kernel
  have hsuggested : (validateLoadout "Veteran" ["pistol", "axe"] gs).closestMatch
      = some ["axe", "knife"] := by decide +kernel
  have hperm : ["pistol", "axe"].Perm ["axe", "pistol"] := by decide
  obtain ⟨_, hnearest, horder⟩ :=
    @validate_exactly_or_nearest "Veteran" ["pistol", "axe"] gs hone
  obtain ⟨c, hc, hclosest, _, _⟩ := hnearest hinvalid
  obtain rfl : c = ["axe", "knife"] := Option.some.inj (hclosest.symm.trans hsuggested)
  exact ⟨hone, hinvalid, hc, hperm, (horder _ hperm).closestMatch.symm.trans hclosest⟩

/-! ## Exact and nearest -/

/-- A candidate falls short of the length of a loadout by each item that is missing, and twice by
    each that is too much. -/
theorem score_eq_length_sub (l c : List String) :
    score l c = l.length - (compareWith l c).missing.length
      - 2 * (compareWith l c).extra.length := by
  have hsplit : l.length = l.countP c.contains + (compareWith l c).extra.length := by
    rw [List.countP_eq_length_filter]
    exact List.length_eq_length_filter_add c.contains
  unfold score
  dsimp only
  omega

theorem score_le_length (l c : List String) : score l c ≤ l.length := by
  rw [score_eq_length_sub]
  omega

/-- **As near as can be** is a candidate with nothing to add and nothing to take away. -/
theorem score_eq_length_iff {l c : List String} :
    score l c = l.length ↔ (compareWith l c).missing = [] ∧ (compareWith l c).extra = [] := by
  rw [score_eq_length_sub, ← List.length_eq_zero_iff, ← List.length_eq_zero_iff]
  omega

theorem missing_eq_nil_iff {l c : List String} : (compareWith l c).missing = [] ↔ c ⊆ l := by
  unfold compareWith
  dsimp only
  rw [List.filter_eq_nil_iff]
  refine forall₂_congr fun a _ => ?_
  simp

theorem extra_eq_nil_iff {l c : List String} : (compareWith l c).extra = [] ↔ l ⊆ c := by
  unfold compareWith
  dsimp only
  rw [List.filter_eq_nil_iff]
  refine forall₂_congr fun a _ => ?_
  simp

/-- Where no item is repeated, these candidates are the permutations of the loadout. -/
theorem score_eq_length_iff_perm {l c : List String} (hl : l.Nodup) (hc : c.Nodup) :
    score l c = l.length ↔ l.Perm c := by
  rw [score_eq_length_iff, missing_eq_nil_iff, extra_eq_nil_iff]
  constructor
  · rintro ⟨hmissing, hextra⟩
    exact (hl.subperm hextra).antisymm (hc.subperm hmissing)
  · intro hperm
    exact ⟨hperm.symm.subset, hperm.subset⟩

/-- An exact candidate is the first permutation of the loadout. -/
theorem findExact_eq_some_iff {l : List String} {cs : List Loadout} {c : Loadout} :
    findExact l cs = some c ↔
      ∃ before after, cs = before ++ c :: after ∧ l.Perm c ∧ ∀ k ∈ before, ¬ l.Perm k := by
  have hsorted (k : Loadout) : (Loadout.ofItems k == Loadout.ofItems l) = true ↔ l.Perm k := by
    rw [beq_iff_eq, Loadout.ofItems_eq_iff]
    exact List.perm_comm
  unfold findExact
  dsimp only
  rw [List.find?_eq_some_iff_append]
  constructor
  · rintro ⟨hmatch, before, after, hcs, hbefore⟩
    refine ⟨before, after, hcs, (hsorted c).mp hmatch, fun k hk hperm => ?_⟩
    have hno := hbefore k hk
    rw [(hsorted k).mpr hperm] at hno
    exact Bool.false_ne_true hno
  · rintro ⟨before, after, hcs, hperm, hbefore⟩
    refine ⟨(hsorted c).mpr hperm, before, after, hcs, fun k hk => ?_⟩
    rw [Bool.not_eq_true', ← Bool.not_eq_true, hsorted]
    exact hbefore k hk

section NoRepeats

variable {l : List String} {cs : List Loadout} (hl : l.Nodup) (hcs : ∀ c ∈ cs, c.Nodup)

include hl hcs

/-- The earliest of the nearest candidates is as near as can be only if it is the exact one. -/
theorem findExact_of_earliest {c : Loadout} (hc : Earliest (score l) cs c)
    (hfull : score l c = l.length) : findExact l cs = some c := by
  have hmem := hc.mem
  obtain ⟨before, after, rfl, _, hbefore⟩ := hc
  rw [findExact_eq_some_iff]
  refine ⟨before, after, rfl, (score_eq_length_iff_perm hl (hcs c hmem)).mp hfull, ?_⟩
  intro k hk hperm
  -- a permutation before it would be as near, and what stands before it is less near
  have hkfull := (score_eq_length_iff_perm hl (hcs k (List.mem_append_left _ hk))).mpr hperm
  have hless := hbefore k hk
  omega

/-- Where there is an exact candidate, the nearest is as near as can be. -/
theorem score_eq_length_of_earliest {c d : Loadout} (hexact : findExact l cs = some c)
    (hd : Earliest (score l) cs d) : score l d = l.length := by
  obtain ⟨before, after, hsplit, hperm, _⟩ := findExact_eq_some_iff.mp hexact
  have hmem : c ∈ cs := by
    rw [hsplit]
    exact List.mem_append_right before List.mem_cons_self
  have hfull := (score_eq_length_iff_perm hl (hcs c hmem)).mpr hperm
  obtain ⟨_, _, _, hmost, _⟩ := hd
  have hle := hmost c hmem
  have hlength := score_le_length l d
  omega

/-- The exact candidate is the nearest one, with nothing missing and nothing too much. -/
theorem findExact_eq_some_iff_findClosest (c : Loadout) :
    findExact l cs = some c ↔ findClosest l cs = some ⟨c, [], []⟩ := by
  constructor
  · intro hexact
    have hsome : cs ≠ [] := by
      rintro rfl
      cases hexact
    obtain ⟨d, hclosest, hd⟩ := exists_findClosest l hsome
    have hfull := score_eq_length_of_earliest hl hcs hexact hd
    obtain rfl : d = c := by
      rw [findExact_of_earliest hl hcs hd hfull] at hexact
      exact Option.some.inj hexact
    obtain ⟨hmissing, hextra⟩ := score_eq_length_iff.mp hfull
    rw [hclosest]
    refine congrArg some ?_
    calc compareWith l d
        = ⟨d, (compareWith l d).missing, (compareWith l d).extra⟩ := rfl
      _ = ⟨d, [], []⟩ := by rw [hmissing, hextra]
  · intro hclosest
    have hsome : cs ≠ [] := by
      rintro rfl
      cases hclosest
    obtain ⟨d, hfound, hd⟩ := exists_findClosest l hsome
    rw [hclosest] at hfound
    have hsame : (⟨c, [], []⟩ : Comparison) = compareWith l d := Option.some.inj hfound
    obtain rfl : c = d := congrArg Comparison.candidate hsame
    have hmissing : (compareWith l c).missing = [] := (congrArg Comparison.missing hsame).symm
    have hextra : (compareWith l c).extra = [] := (congrArg Comparison.extra hsame).symm
    exact findExact_of_earliest hl hcs hd (score_eq_length_iff.mpr ⟨hmissing, hextra⟩)

end NoRepeats

/-- **Exact and nearest search agree.**  If neither the loadout nor a candidate repeats an item, the
    exact search finds a candidate exactly if the nearest search finds that candidate with nothing
    missing and nothing too much; it is the first permutation of the loadout.  Where the exact
    search finds nothing among some candidates, the nearest one has something to add or to take
    away. -/
theorem searches_agree {l : List String} {cs : List Loadout} (hl : l.Nodup)
    (hcs : ∀ c ∈ cs, c.Nodup) :
    (∀ c, findExact l cs = some c ↔ findClosest l cs = some ⟨c, [], []⟩) ∧
    (∀ c, findExact l cs = some c ↔
      ∃ before after, cs = before ++ c :: after ∧ l.Perm c ∧ ∀ k ∈ before, ¬ l.Perm k) ∧
    (findExact l cs = none → cs ≠ [] →
      ∃ d, findClosest l cs = some d ∧ (d.missing ≠ [] ∨ d.extra ≠ [])) := by
  refine ⟨findExact_eq_some_iff_findClosest hl hcs, fun c => findExact_eq_some_iff, ?_⟩
  intro hnone hsome
  obtain ⟨c, hclosest, hc⟩ := exists_findClosest l hsome
  refine ⟨compareWith l c, hclosest, not_and_or.mp fun hneither => ?_⟩
  -- a candidate with nothing missing and nothing too much would have been found
  have hexact := findExact_of_earliest hl hcs hc (score_eq_length_iff.mpr hneither)
  rw [hnone] at hexact
  cases hexact

/-- Two candidates are a veteran's axe and shield in some order: both searches find the first of
    them, behind a candidate that holds more.  For a pistol both searches find nothing exact. -/
theorem closest_axe_shield :
    let cs : List Loadout := [["axe", "pistol", "shield"], ["shield", "axe"], ["axe", "shield"]]
    (["axe", "shield"] : List String).Nodup ∧ (["pistol"] : List String).Nodup ∧
      (∀ c ∈ cs, c.Nodup) ∧
      findClosest ["axe", "shield"] cs = some ⟨["shield", "axe"], [], []⟩ ∧
      findExact ["pistol"] cs = none ∧
      ∃ d, findClosest ["pistol"] cs = some d ∧ (d.missing ≠ [] ∨ d.extra ≠ []) := by
  intro cs
  have hl : (["axe", "shield"] : List String).Nodup := by decide
  have hpistol : (["pistol"] : List String).Nodup := by decide
  have hcs : ∀ c ∈ cs, c.Nodup := by decide
  have hexact : findExact ["axe", "shield"] cs = some ["shield", "axe"] := by decide +kernel
  have hnone : findExact ["pistol"] cs = none := by decide +kernel
  exact ⟨hl, hpistol, hcs, ((searches_agree hl hcs).1 _).mp hexact, hnone,
    (searches_agree hpistol hcs).2.2 hnone (List.cons_ne_nil _ _)⟩

end Muster.Wargear
