/-
  Roll targets: which numbers a die is asked for.

  1. **Program.**  A target comes from profiles that mechanics have changed, and a change is not
     checked: a strength of -3 or a skill of 40 is possible.  What holds a target within the faces
     of a die is the last step, the calculation of the roll itself.

  2. **Specification.**  `IsDie high`: a target is 0 for a roll that succeeds by itself and for no
     other, and else it lies between 2 and `high`.

  3. **Crux.**  A hit and a wound target end in `clamp 2 6` and in the lower of that and a critical
     threshold, which lies between 2 and 6 as well.  Armour ends in `clamp 2 7`.  An invulnerable
     save ends in nothing: it is used as it stands in the changed profile, wherever it is below the
     armour.  So a save has a real target exactly if that number is not below 2
     (`isDie_saveRoll_iff`), which holds of every profile that is read from a document and is kept
     by every change that sets no number below 2 and takes nothing away.
-/
import Muster.Proofs.Combat.Roll
import Muster.Proofs.Document.Accepted

namespace Muster.Combat

open Text Document

/-- Whether a roll has a real target: 0 says that it succeeds by itself and nothing else does, and
    any other target is a number from 2 on. -/
structure ResolvedRoll.IsDie (high : Int) (r : ResolvedRoll) : Prop where
  zero_iff : r.target = 0 ↔ r.summary.autoSuccess = true
  range : r.summary.autoSuccess = false → 2 ≤ r.target ∧ r.target ≤ high

/-- Whether an invulnerable save, if there is one, is a number that a die may be asked for. -/
def TargetProfile.RealInvulnerable (t : TargetProfile) : Prop :=
  ∀ i, t.invulnerableSave = some i → 2 ≤ i

/-- **Which rolls have a real target**, if it is 0 for those that succeed by themselves and a
    number `n` for the others: all but those with `n` out of range. -/
theorem ResolvedRoll.isDie_iff {high n : Int} {r : ResolvedRoll}
    (h : r.target = if r.summary.autoSuccess then 0 else n) :
    r.IsDie high ↔ r.summary.autoSuccess = true ∨ 2 ≤ n ∧ n ≤ high := by
  cases hauto : r.summary.autoSuccess with
  | true =>
    rw [hauto, if_pos rfl] at h
    have hrange : r.summary.autoSuccess = false → 2 ≤ r.target ∧ r.target ≤ high :=
      fun hnot => Bool.noConfusion (hauto.symm.trans hnot)
    exact iff_of_true ⟨iff_of_true h hauto, hrange⟩ (Or.inl rfl)
  | false =>
    rw [hauto, if_neg Bool.false_ne_true] at h
    subst h
    constructor
    · intro hdie
      exact Or.inr (hdie.range hauto)
    · intro hrange
      have htarget := hrange.resolve_left Bool.false_ne_true
      have hzero : r.target ≠ 0 := by omega
      exact ⟨iff_of_false hzero (by simp [hauto]), fun _ => htarget⟩

/-! ## The calculations -/

theorem clamp_mem {low high : Int} (h : low ≤ high) (n : Int) :
    low ≤ clamp low high n ∧ clamp low high n ≤ high := by
  unfold clamp
  omega

/-- A threshold within the faces of a die leaves a hit or a wound target there. -/
theorem min_clamp_mem {critical : Int} (h : 2 ≤ critical ∧ critical ≤ 6) (n : Int) :
    2 ≤ min (clamp 2 6 n) critical ∧ min (clamp 2 6 n) critical ≤ 6 := by
  obtain ⟨hlow, hhigh⟩ := clamp_mem (show (2 : Int) ≤ 6 by decide) n
  omega

/-- **A save needs a number from 2 to 7, unless an invulnerable save is below 2.** -/
theorem saveTarget_mem_iff (save ap net : Int) (invulnerable : Option Int) (inCover : Bool) :
    (2 ≤ (saveTarget save ap net invulnerable inCover).target ∧
      (saveTarget save ap net invulnerable inCover).target ≤ 7) ↔
    ∀ i, invulnerable = some i → 2 ≤ i := by
  have harmour : 2 ≤ armourSave save ap net (coverCounts save ap inCover) ∧
      armourSave save ap net (coverCounts save ap inCover) ≤ 7 := clamp_mem (by decide) _
  unfold saveTarget
  dsimp only
  generalize armourSave save ap net (coverCounts save ap inCover) = armour at harmour ⊢
  cases invulnerable with
  | none => exact iff_of_true harmour nofun
  | some i =>
    simp only [Option.some.injEq, forall_eq']
    split
    · show 2 ≤ i ∧ i ≤ 7 ↔ _
      omega
    · show 2 ≤ armour ∧ armour ≤ 7 ↔ _
      omega

/-! ## The rolls -/

/-- The threshold that counts lies within the faces of a die. -/
theorem RollLaw.critical_mem_die {settings : Settings} {r : Roll} {ms : List Active}
    {s : RollSummary} (h : RollLaw settings r ms s) : 2 ≤ s.critical ∧ s.critical ≤ 6 := by
  rcases h.critical_mem with ⟨_, _, t, _, ht⟩ | ⟨hsix, _⟩
  · rw [← ht]
    exact ⟨t.two_le, t.le_six⟩
  · rw [hsix]
    decide

theorem isDie_hitRoll {s : RollSummary} (w : WeaponProfile)
    (hcritical : 2 ≤ s.critical ∧ s.critical ≤ 6) : (hitRoll s w).IsDie 6 :=
  (ResolvedRoll.isDie_iff rfl).mpr (Or.inr (min_clamp_mem hcritical _))

theorem isDie_woundRoll {s : RollSummary} (w : WeaponProfile) (t : TargetProfile)
    (hcritical : 2 ≤ s.critical ∧ s.critical ≤ 6) : (woundRoll s w t).IsDie 6 :=
  (ResolvedRoll.isDie_iff rfl).mpr (Or.inr (min_clamp_mem hcritical _))

theorem target_withSave (s : RollSummary) (t : SaveTarget) :
    (s.withSave t).target = if (s.withSave t).summary.autoSuccess then 0 else t.target := by
  rw [summary_withSave, RollSummary.withSave]
  split <;> rfl

/-- **Which saves have a real target**: those that succeed by themselves, and those of a target
    whose invulnerable save, if it has one, is not below 2. -/
theorem isDie_saveRoll_iff (s : RollSummary) (w : WeaponProfile) (t : TargetProfile)
    (inCover : Bool) :
    (saveRoll s w t inCover).IsDie 7 ↔
      (saveRoll s w t inCover).summary.autoSuccess = true ∨ t.RealInvulnerable := by
  rw [saveRoll, ResolvedRoll.isDie_iff (target_withSave _ _), saveTarget_mem_iff]
  rfl

/-! ## Changes of the invulnerable save -/

/-- Whether a change sets no number below 2 and takes nothing away. -/
def Change.Gentle (c : Change) : Prop :=
  match c with
  | .set v => ∀ m, asParameter v = .ok (.integer m) → 2 ≤ m
  | .raise k => 0 ≤ k

/-- A gentle change of a characteristic that is a number or absent. -/
theorem Change.Gentle.onNumberIfAny {c c' : Change} (hgentle : c.Gentle) (hc : c.settle = .ok c')
    {n : Option Int} (hn : ∀ i, n = some i → 2 ≤ i) : ∀ i, c'.onNumberIfAny n = some i → 2 ≤ i := by
  intro i hi
  cases c with
  | set v =>
    obtain ⟨v', hv, rfl⟩ := map_eq_ok.mp hc
    cases v' with
    | integer m =>
      obtain rfl : m = i := Option.some.inj hi
      exact hgentle m hv
    | text s => exact hn i hi
  | raise k =>
    obtain rfl : Change.raise k = c' := Except.ok.inj hc
    obtain ⟨m, hm, rfl⟩ := Option.map_eq_some_iff.mp hi
    have hk : 0 ≤ k := hgentle
    have htwo : 2 ≤ m := hn m hm
    omega

/-- The changes to a target that reach its invulnerable save. -/
def invulnerableChanges (active : List Active) : List Change :=
  ((changes .defender active).filter fun c =>
    fieldOf? targetCodes c.1 == some .invulnerableSave).map Prod.snd

/-- One change keeps a real invulnerable save, if it is gentle where it reaches that. -/
theorem TargetProfile.RealInvulnerable.change {t t' : TargetProfile} (ht : t.RealInvulnerable)
    {c : String × Change} (h : t.change c.1 c.2 = .ok t')
    (hgentle : fieldOf? targetCodes c.1 = some .invulnerableSave → c.2.Gentle) :
    t'.RealInvulnerable := by
  rw [TargetProfile.change] at h
  cases hfield : fieldOf? targetCodes c.1 with
  | none =>
    rw [hfield] at h
    exact Except.ok.inj h ▸ ht
  | some field =>
    rw [hfield] at h
    obtain ⟨c', hc, rfl⟩ := map_eq_ok.mp h
    cases field with
    | invulnerableSave => exact (hgentle hfield).onNumberIfAny hc ht
    | toughness => exact ht
    | save => exact ht
    | wounds => exact ht

/-- All changes together keep a real invulnerable save. -/
theorem realInvulnerable_changedTarget {t t' : TargetProfile} {active : List Active}
    (ht : t.RealInvulnerable) (h : changedTarget t active = .ok t')
    (hgentle : ∀ c ∈ invulnerableChanges active, c.Gentle) : t'.RealInvulnerable := by
  refine foldlM_induct h ht fun c hc t t' hstep hkept => hkept.change hstep fun hfield => ?_
  exact hgentle c.2 (List.mem_map.mpr ⟨c, List.mem_filter.mpr ⟨hc, beq_iff_eq.mpr hfield⟩, rfl⟩)

/-- A profile that is read from a document has a real invulnerable save, or none. -/
theorem realInvulnerable_of_read {v : Value} {t : TargetProfile}
    (h : TargetProfile.read v = .ok t) : t.RealInvulnerable := by
  obtain ⟨_, h⟩ := record_eq_ok.mp h
  simp only [Checked.seq_eq_ok, Checked.map_eq_ok] at h
  obtain ⟨_, _, ⟨_, _, ⟨_, invulnerable, hfront, hread, rfl⟩, _, rfl⟩, _, rfl⟩ := h
  obtain ⟨_, _, ⟨_, _, ⟨_, _, rfl⟩, _, rfl⟩, _, rfl⟩ := hfront
  intro i hi
  obtain rfl : invulnerable = some i := hi
  rcases optional_eq_ok.mp hread with ⟨_, habsent⟩ | ⟨w, _, hw⟩
  · cases habsent
  · exact (atLeast_eq_ok.mp (atMost_eq_ok.mp (of_nullable_eq_some hw)).1).2

/-- The target of a request that is read from a document is read from a part of it. -/
theorem exists_target_of_read {v : Value} {q : Request} (h : Request.read v = .ok q) :
    ∃ w, TargetProfile.read w = .ok q.target := by
  obtain ⟨_, h⟩ := record_eq_ok.mp h
  simp only [Checked.seq_eq_ok, Checked.map_eq_ok] at h
  obtain ⟨_, _, ⟨_, _, ⟨_, target, hfront, hread, rfl⟩, _, rfl⟩, _, rfl⟩ := h
  obtain ⟨_, _, ⟨_, _, ⟨_, _, rfl⟩, _, rfl⟩, _, rfl⟩ := hfront
  obtain ⟨w, _, hw⟩ := required_eq_ok.mp hread
  exact ⟨w, hw⟩

/-! ## The whole attack -/

/-- **Targets are real dice targets.**  Whatever mechanics do to the profiles, a hit and a wound
    target is 0 if the roll succeeds by itself and else lies between 2 and 6.  A save target is 0 or
    lies between 2 and 7 in the same way, exactly if the save succeeds by itself or the
    invulnerable save of the changed profile, if there is one, is not below 2.  So it is if the
    request was read from a document, and no active effect sets the invulnerable save to less
    than 2 or takes from it. -/
theorem dice_of_resolveAttack {core : CoreRegistry} {faction : FactionRegistry}
    {settings : Settings} {q : Request} {res : Resolution}
    (h : resolveAttack core faction settings q = .ok res) :
    res.hit.IsDie 6 ∧ res.wound.IsDie 6 ∧
    (res.save.IsDie 7 ↔ res.save.summary.autoSuccess = true ∨ res.target.RealInvulnerable) ∧
    ∃ b, q.brought core faction = .ok b ∧ ∀ v, Request.read v = .ok q →
      (∀ c ∈ invulnerableChanges (q.gatedWith b).active, c.Gentle) → res.save.IsDie 7 := by
  rw [resolveAttack_eq] at h
  obtain ⟨b, hb, h⟩ := bind_eq_ok.mp h
  have hsettle : q.settleWith settings b = .ok res := mapError_eq_ok.mp h
  have hcritical : ∀ r, 2 ≤ (summarizeRoll settings (q.gatedWith b).active r).critical ∧
      (summarizeRoll settings (q.gatedWith b).active r).critical ≤ 6 := by
    intro r
    rw [← summary_roll hsettle r]
    exact (rollLaw_settle hsettle r).critical_mem_die
  obtain ⟨-, htarget, hhit, hwound, hsave⟩ := rolls_of_settle hsettle
  have hsaveIff : res.save.IsDie 7 ↔
      res.save.summary.autoSuccess = true ∨ res.target.RealInvulnerable := by
    rw [hsave]
    exact isDie_saveRoll_iff _ _ _ _
  refine ⟨?_, ?_, hsaveIff, b, hb, fun v hread hgentle => hsaveIff.mpr (Or.inr ?_)⟩
  · rw [hhit]
    exact isDie_hitRoll _ (hcritical .hit)
  · rw [hwound]
    exact isDie_woundRoll _ _ (hcritical .wound)
  · obtain ⟨w, hw⟩ := exists_target_of_read hread
    exact realInvulnerable_changedTarget (realInvulnerable_of_read hw) htarget hgentle

/-- A shot at a target without any save, to which the attacker's rules give an invulnerable one. -/
def warding (n : Int) : Request where
  attackerArmy := .none
  defenderArmy := .none
  weapon := ⟨"Bolter", .integer 1, 4, 4, 0, .integer 1, none, []⟩
  target := ⟨"", 4, 7, none, 1, []⟩
  situational := [.effect ⟨.targetUnit, [], none⟩ (.staticNumber "invsv" (.integer n))]
  situation := ⟨.none, .none⟩

/-- An invulnerable save of 4 is a real target. -/
theorem dice_warding :
    ∃ res, resolveAttack .empty .empty .standard (warding 4) = .ok res ∧
      res.hit.IsDie 6 ∧ res.wound.IsDie 6 ∧ res.save.IsDie 7 ∧ res.save.target = 4 := by
  obtain ⟨res, h, htarget⟩ : ∃ res, resolveAttack .empty .empty .standard (warding 4) = .ok res ∧
      res.save.target = 4 := ⟨_, rfl, rfl⟩
  obtain ⟨hhit, hwound, _, b, hb, hsave⟩ := dice_of_resolveAttack h
  obtain rfl := Except.ok.inj hb
  have hread : Request.read (warding 4).toValue = .ok (warding 4) := rfl
  have hgentle : ∀ c ∈ [Change.set (.integer 4)], c.Gentle := by
    intro c hc
    obtain rfl := List.mem_singleton.mp hc
    intro m hm
    cases hm
    decide
  exact ⟨res, h, hhit, hwound, hsave _ hread hgentle, htarget⟩

/-- An invulnerable save of 0 is no real target: the save does not succeed by itself, and 0 is what
    it needs. -/
theorem not_isDie_warding :
    Request.read (warding 0).toValue = .ok (warding 0) ∧
    ∃ res, resolveAttack .empty .empty .standard (warding 0) = .ok res ∧
      res.save.summary.autoSuccess = false ∧ res.save.target = 0 ∧ ¬ res.save.IsDie 7 := by
  obtain ⟨res, h, hauto, htarget⟩ : ∃ res,
      resolveAttack .empty .empty .standard (warding 0) = .ok res ∧
      res.save.summary.autoSuccess = false ∧ res.save.target = 0 := ⟨_, rfl, rfl, rfl⟩
  refine ⟨rfl, res, h, hauto, htarget, fun hdie => ?_⟩
  have hrange := (hdie.range hauto).1
  rw [htarget] at hrange
  exact absurd hrange (by decide)

end Muster.Combat
