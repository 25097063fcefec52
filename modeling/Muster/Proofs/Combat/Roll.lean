/-
  Rolls: the closed form of each roll, and that the order of mechanics does not matter to it.

  1. **Program.**  A roll is summarized in stages: its modifiers are capped, the ignored ones, if any,
     are taken out and the others capped again, and the re-rolls are folded.

  2. **Specification.**  The roll depends on the active effects that its maker receives (`received`),
     told by owner and entity.  `RollLaw` says what comes of them, field by field: a sum held within
     a bound, a filter, a greatest and a least element.  The marks that the first capping leaves do
     not show in it, because capping changes no value.

  3. **Order.**  Each field of the law is blind to the order of the effects, so two lists of effects
     that are permutations of each other come to the same roll (`RollLaw.agree`).  What remains is
     that a permuted request is resolved at all: whether a change can be made is told by the change
     alone and not by the profile it is made to (`exists_settle_iff`).
-/
import Mathlib
import Muster.Proofs.Combat.Capping
import Muster.Proofs.Combat.Characteristic
import Muster.Proofs.Combat.Resolution

namespace Muster.Combat

open Text

/-! ## Whose effects count -/

/-- The effects on a roll that its maker receives, where the owner of an effect receives it if the
    entity is on the owner's side, and the other combatant if it is not. -/
def received (r : Roll) (active : List Active) : List Active :=
  active.filter fun a => a.effect.roll? = some r ∧
    (if a.frame.entity.isOwn then a.owner else a.owner.other) = r.maker

/-- A roll is touched by what its maker receives. -/
theorem touches_iff (a : Active) (r : Roll) : a.touches r = true ↔ a.effect.roll? = some r ∧
    (if a.frame.entity.isOwn then a.owner else a.owner.other) = r.maker := by
  rw [Active.touches]
  by_cases hroll : a.effect.roll? = some r
  · -- there are two sides, so the other's other is the maker
    rw [if_neg (by simpa using hroll), and_iff_right hroll]
    cases a.frame.entity.isOwn <;> cases a.owner <;> cases r <;> decide
  · rw [if_pos (by simpa using hroll)]
    exact iff_of_false Bool.false_ne_true fun h => hroll h.1

theorem touching_eq (r : Roll) (active : List Active) : touching r active = received r active :=
  List.filter_congr fun a _ => by
    rw [Bool.eq_iff_iff, touches_iff, decide_eq_true_eq]

/-! ## Ignored modifiers -/

/-- The value of a modifier. -/
def Effect.value? : Effect → Option Int
  | modifier _ n => some n
  | _ => none

/-- Whether an effect ignores modifiers of a value. -/
def Effect.ignores (n : Int) : Effect → Bool
  | ignore _ .all => true
  | ignore _ .penalties => decide (n < 0)
  | ignore _ .bonuses => decide (0 < n)
  | _ => false

/-- The values of the modifiers among some effects. -/
def values (ms : List Active) : List Int := ms.filterMap fun a => a.effect.value?

/-- Whether any of some effects ignores modifiers of a value. -/
def isIgnored (ms : List Active) (n : Int) : Bool := ms.any fun a => a.effect.ignores n

theorem map_value_modifiers (ms : List Active) :
    (ms.filterMap Active.modifier?).map Modifier.value = values ms := by
  rw [List.map_filterMap, values]
  congr 1
  funext a
  rw [Active.modifier?]
  cases a.effect <;> rfl

/-- The scopes that are found cover what the effects ignore. -/
theorem any_covers (ms : List Active) (m : Modifier) :
    (ms.filterMap fun a => a.effect.ignoring?).any (fun sc => sc.covers m)
      = isIgnored ms m.value := by
  induction ms with
  | nil => rfl
  | cons a ms ih =>
    rw [List.filterMap_cons, isIgnored, List.any_cons]
    cases a.effect with
    | ignore r sc =>
      show List.any (sc :: _) _ = _
      rw [List.any_cons, ih]
      cases sc <;> rfl
    | _ => exact ih

/-! ## Re-rolls -/

/-- How strong a re-roll is; none is the weakest. -/
def strength (o : Option RerollScope) : Nat := (o.map RerollScope.rank).getD 0

theorem strength_injective : Function.Injective strength := by
  intro a b h
  rcases a with _ | _ | _ | _ <;> rcases b with _ | _ | _ | _ <;>
    first
    | rfl
    | exact absurd h (by decide)

/-- The stronger one of two re-rolls is one of them, and as strong as both. -/
theorem strongerReroll_spec (a b : Option RerollScope) :
    strength a ≤ strength (strongerReroll a b) ∧ strength b ≤ strength (strongerReroll a b) ∧
    (strongerReroll a b = a ∨ strongerReroll a b = b) := by
  rw [strongerReroll]
  split
  · rename_i hlt
    exact ⟨Nat.le_of_lt hlt, le_refl _, Or.inr rfl⟩
  · rename_i hge
    exact ⟨le_refl _, Nat.le_of_not_lt hge, Or.inl rfl⟩

/-- No re-roll that a fold runs over is stronger than what comes out. -/
theorem strength_le_foldl (os : List (Option RerollScope)) :
    ∀ start, ∀ o ∈ start :: os, strength o ≤ strength (os.foldl strongerReroll start) := by
  induction os with
  | nil =>
    intro start o ho
    rw [List.mem_singleton.mp ho]
    exact le_refl _
  | cons p os ih =>
    intro start o ho
    rw [List.foldl_cons]
    obtain ⟨hstart, hp, _⟩ := strongerReroll_spec start p
    have hfirst := ih (strongerReroll start p) _ List.mem_cons_self
    rcases List.mem_cons.mp ho with rfl | ho
    · exact hstart.trans hfirst
    · rcases List.mem_cons.mp ho with rfl | ho
      · exact hp.trans hfirst
      · exact ih _ o (List.mem_cons_of_mem _ ho)

/-- What comes out of a fold went into it. -/
theorem foldl_strongerReroll_mem (os : List (Option RerollScope)) :
    ∀ start, os.foldl strongerReroll start ∈ start :: os := by
  induction os with
  | nil =>
    intro start
    exact List.mem_singleton.mpr rfl
  | cons p os ih =>
    intro start
    rw [List.foldl_cons]
    rcases List.mem_cons.mp (ih (strongerReroll start p)) with h | h
    · rw [h]
      rcases (strongerReroll_spec start p).2.2 with hone | hone <;> rw [hone]
      · exact List.mem_cons_self
      · exact List.mem_cons_of_mem _ List.mem_cons_self
    · exact List.mem_cons_of_mem _ (List.mem_cons_of_mem _ h)

/-! ## The law of a roll -/

/-- What the active effects that count for a roll come to. -/
structure RollLaw (settings : Settings) (r : Roll) (ms : List Active) (s : RollSummary) : Prop where
  /-- The net is the sum of what is not ignored, within the bound of the roll. -/
  net : s.net = r.held settings ((values ms).filter fun n => !isIgnored ms n).sum
  /-- All modifiers are capped, the ignored ones too. -/
  modifiers : s.modifiers = cap settings r (ms.filterMap Active.modifier?)
  ignored : s.ignored = s.modifiers.modifiers.filter fun m => isIgnored ms m.value
  /-- No re-roll is stronger than the one that counts. -/
  reroll_max : ∀ a ∈ ms, ∀ sc, a.effect = .reroll r sc → strength (some sc) ≤ strength s.reroll
  /-- A re-roll that counts is there. -/
  reroll_mem : ∀ sc, s.reroll = some sc → ∃ a ∈ ms, a.effect = .reroll r sc
  autoSuccess : s.autoSuccess = true ↔ ∃ a ∈ ms, a.effect = .autoSuccess r
  /-- No threshold is below the one that counts. -/
  critical_min : ∀ a ∈ ms, ∀ t, a.effect = .criticalThreshold r t → s.critical ≤ t.value
  /-- The threshold that counts is there, or there is none and it is 6. -/
  critical_mem : (∃ a ∈ ms, ∃ t, a.effect = .criticalThreshold r t ∧ t.value = s.critical) ∨
    s.critical = 6 ∧ ∀ a ∈ ms, ∀ t, a.effect ≠ .criticalThreshold r t

/-- What is kept of capped modifiers has the values that are not ignored. -/
theorem map_value_kept (settings : Settings) (r : Roll) (ms : List Active) :
    ((cap settings r (ms.filterMap Active.modifier?)).modifiers.filter
        fun m => !isIgnored ms m.value).map Modifier.value
      = (values ms).filter fun n => !isIgnored ms n := by
  have hvalues : (cap settings r (ms.filterMap Active.modifier?)).modifiers.map Modifier.value
      = values ms := (map_value_cap settings r _).trans (map_value_modifiers ms)
  rw [← hvalues, List.filter_map]
  rfl

theorem reroll?_eq_some_iff {e : Effect} {r : Roll} (hroll : e.roll? = some r)
    {sc : RerollScope} : e.reroll? = some sc ↔ e = .reroll r sc := by
  cases e <;> simp_all [Effect.roll?, Effect.reroll?]

theorem threshold?_eq_some_iff {e : Effect} {r : Roll} (hroll : e.roll? = some r) {n : Int} :
    e.threshold? = some n ↔ ∃ t, e = .criticalThreshold r t ∧ t.value = n := by
  cases e <;> simp_all [Effect.roll?, Effect.threshold?]

theorem succeeds_iff {e : Effect} {r : Roll} (hroll : e.roll? = some r) :
    e.succeeds = true ↔ e = .autoSuccess r := by
  cases e <;> simp_all [Effect.roll?, Effect.succeeds]

/-- A summary, with what is ignored told by the effects, and the net in one way. -/
theorem summarize_eq (settings : Settings) (r : Roll) (ms : List Active) :
    summarize settings r ms =
      let capped := cap settings r (ms.filterMap Active.modifier?)
      { roll := r
        net := (cap settings r (capped.modifiers.filter fun m => !isIgnored ms m.value)).net
        modifiers := capped
        ignored := capped.modifiers.filter fun m => isIgnored ms m.value
        reroll := (ms.map fun a => a.effect.reroll?).foldl strongerReroll none
        autoSuccess := ms.any fun a => a.effect.succeeds
        critical := (ms.filterMap fun a => a.effect.threshold?).min?.getD 6
        ignoresCover := (ms.filterMap fun a => a.effect.ignoring?).contains .cover } := by
  unfold summarize
  simp only [net_cap_kept, List.map_map, List.any_map, List.filterMap_map, Function.comp_def,
    any_covers]

/-- **A summary obeys the law of its roll.** -/
theorem rollLaw_summarize (settings : Settings) (r : Roll) {ms : List Active}
    (hroll : ∀ a ∈ ms, a.effect.roll? = some r) :
    RollLaw settings r ms (summarize settings r ms) := by
  rw [summarize_eq]
  dsimp only
  constructor
  case net => rw [net_cap, map_value_kept]
  case modifiers => rfl
  case ignored => rfl
  case reroll_max =>
    intro a ha sc heffect
    have hsc : a.effect.reroll? = some sc := (reroll?_eq_some_iff (hroll a ha)).mpr heffect
    exact strength_le_foldl _ none _ (List.mem_cons_of_mem _ (List.mem_map.mpr ⟨a, ha, hsc⟩))
  case reroll_mem =>
    intro sc hsc
    have hmem := foldl_strongerReroll_mem (ms.map fun a => a.effect.reroll?) none
    rw [show List.foldl strongerReroll none _ = some sc from hsc] at hmem
    rcases List.mem_cons.mp hmem with hnone | hmem
    · cases hnone
    · obtain ⟨a, ha, hfound⟩ := List.mem_map.mp hmem
      exact ⟨a, ha, (reroll?_eq_some_iff (hroll a ha)).mp hfound⟩
  case autoSuccess =>
    rw [List.any_eq_true]
    exact exists_congr fun a => and_congr_right fun ha => succeeds_iff (hroll a ha)
  case critical_min =>
    intro a ha t heffect
    have hmemT : t.value ∈ ms.filterMap fun a => a.effect.threshold? :=
      List.mem_filterMap.mpr ⟨a, ha, (threshold?_eq_some_iff (hroll a ha)).mpr ⟨t, heffect, rfl⟩⟩
    cases hmin : (ms.filterMap fun a => a.effect.threshold?).min? with
    | none => rw [List.min?_eq_none_iff.mp hmin] at hmemT; cases hmemT
    | some n => exact (List.min?_eq_some_iff.mp hmin).2 t.value hmemT
  case critical_mem =>
    cases hmin : (ms.filterMap fun a => a.effect.threshold?).min? with
    | none =>
      refine Or.inr ⟨rfl, fun a ha t heffect => ?_⟩
      have hnone := List.filterMap_eq_nil_iff.mp (List.min?_eq_none_iff.mp hmin) a ha
      rw [heffect] at hnone
      cases hnone
    | some n =>
      obtain ⟨a, ha, hfound⟩ := List.mem_filterMap.mp (List.min?_eq_some_iff.mp hmin).1
      exact Or.inl ⟨a, ha, (threshold?_eq_some_iff (hroll a ha)).mp hfound⟩

/-! ## The order of mechanics -/

/-- Two summaries that agree on everything but the order of modifiers. -/
structure SameRoll (s t : RollSummary) : Prop where
  net : s.net = t.net
  reroll : s.reroll = t.reroll
  autoSuccess : s.autoSuccess = t.autoSuccess
  critical : s.critical = t.critical
  modifiers : s.modifiers.modifiers.Perm t.modifiers.modifiers
  ignored : s.ignored.Perm t.ignored

theorem isIgnored_perm {ms ns : List Active} (h : ms.Perm ns) (n : Int) :
    isIgnored ms n = isIgnored ns n := h.any_eq

namespace RollLaw

variable {settings : Settings} {r : Roll} {ms ns : List Active} {s t : RollSummary}

theorem reroll_le (h : ms.Perm ns) (hs : RollLaw settings r ms s) (ht : RollLaw settings r ns t) :
    strength s.reroll ≤ strength t.reroll := by
  cases hsc : s.reroll with
  | none => exact Nat.zero_le _
  | some sc =>
    obtain ⟨a, ha, heffect⟩ := hs.reroll_mem sc hsc
    exact ht.reroll_max a (h.mem_iff.mp ha) sc heffect

theorem critical_le (h : ms.Perm ns) (hs : RollLaw settings r ms s) (ht : RollLaw settings r ns t) :
    s.critical ≤ t.critical := by
  rcases ht.critical_mem with ⟨a, ha, n, heffect, hn⟩ | ⟨hsix, hno⟩
  · rw [← hn]
    exact hs.critical_min a (h.mem_iff.mpr ha) n heffect
  · rcases hs.critical_mem with ⟨a, ha, n, heffect, _⟩ | ⟨hsix', _⟩
    · exact absurd heffect (hno a (h.mem_iff.mp ha) n)
    · rw [hsix, hsix']

/-- **The law of a roll leaves no room for the order of effects.** -/
theorem agree (h : ms.Perm ns) (hs : RollLaw settings r ms s) (ht : RollLaw settings r ns t) :
    SameRoll s t where
  net := by
    have hkept : ((values ms).filter fun n => !isIgnored ms n).Perm
        ((values ns).filter fun n => !isIgnored ns n) := by
      simp only [isIgnored_perm h]
      exact (h.filterMap _).filter _
    rw [hs.net, ht.net, hkept.sum_eq]
  reroll := strength_injective
    (Nat.le_antisymm (reroll_le h hs ht) (reroll_le h.symm ht hs))
  autoSuccess := by
    rw [Bool.eq_iff_iff, hs.autoSuccess, ht.autoSuccess]
    exact exists_congr fun a => and_congr_left fun _ => h.mem_iff
  critical := Int.le_antisymm (critical_le h hs ht) (critical_le h.symm ht hs)
  modifiers := by
    rw [hs.modifiers, ht.modifiers]
    exact perm_cap settings r (h.filterMap _)
  ignored := by
    rw [hs.ignored, ht.ignored, hs.modifiers, ht.modifiers]
    simp only [isIgnored_perm h]
    exact (perm_cap settings r (h.filterMap _)).filter _

end RollLaw

/-! ## Whether an attack is settled -/

theorem changes_perm (side : Side) {ms ns : List Active} (h : ms.Perm ns) :
    (changes side ms).Perm (changes side ns) := by
  have hown : ((ms.filter fun a => a.recipient == side).map Active.effect).Perm
      ((ns.filter fun a => a.recipient == side).map Active.effect) := (h.filter _).map _
  exact (hown.filterMap _).append (hown.filterMap _)

/-- An attack is settled if both profiles take their changes. -/
theorem exists_settle_iff {q : Request} {settings : Settings} {g : Gated}
    {effects : List RuleEffect} {missing : List String} :
    (∃ res, q.settle settings g effects missing = .ok res) ↔
      (∃ w, changedWeapon q.weapon g.active = .ok w) ∧
      ∃ t, changedTarget q.target g.active = .ok t := by
  constructor
  · rintro ⟨res, h⟩
    obtain ⟨p, hp, _⟩ := bind_eq_ok.mp h
    obtain ⟨hweapon, htarget⟩ := foldlM_staged_eq_ok.mp hp
    exact ⟨⟨p.weapon, hweapon⟩, p.target, htarget⟩
  · rintro ⟨⟨w, hw⟩, t, ht⟩
    have hp : (staged g.active).foldlM Profiles.after ⟨q.weapon, q.target⟩ = .ok ⟨w, t⟩ :=
      foldlM_staged_eq_ok.mpr ⟨hw, ht⟩
    exact ⟨_, bind_eq_ok.mpr ⟨_, hp, rfl⟩⟩

/-- Whether an attack is settled does not depend on the order of active effects. -/
theorem exists_settle_of_perm {q : Request} {settings : Settings} {g h : Gated}
    {effects : List RuleEffect} {missing : List String} (hperm : g.active.Perm h.active)
    (hg : ∃ res, q.settle settings g effects missing = .ok res) :
    ∃ res, q.settle settings h effects missing = .ok res := by
  rw [exists_settle_iff] at hg ⊢
  simp only [changedWeapon_eq, changedTarget_eq] at hg ⊢
  rw [exists_foldlM_ok_iff (exists_change_iff weaponCharacteristics),
    exists_foldlM_ok_iff (exists_change_iff targetCharacteristics)] at hg ⊢
  obtain ⟨hweapon, htarget⟩ := hg
  refine ⟨fun c hc => hweapon c ?_, fun c hc => htarget c ?_⟩
  · exact (changes_perm .attacker hperm).mem_iff.mpr hc
  · exact (changes_perm .defender hperm).mem_iff.mpr hc

/-! ## The rolls of an attack -/

/-- The rolls of an outcome. -/
def Resolution.roll (res : Resolution) : Roll → ResolvedRoll
  | .hit => res.hit
  | .wound => res.wound
  | .save => res.save

/-- The rolls of a settled attack, each made with the profiles as changed. -/
theorem rolls_of_settle {q : Request} {settings : Settings} {g : Gated} {effects : List RuleEffect}
    {missing : List String} {res : Resolution}
    (h : q.settle settings g effects missing = .ok res) :
    changedWeapon q.weapon g.active = .ok res.weapon ∧
    changedTarget q.target g.active = .ok res.target ∧
    res.hit = hitRoll (summarizeRoll settings g.active .hit) res.weapon ∧
    res.wound = woundRoll (summarizeRoll settings g.active .wound) res.weapon res.target ∧
    res.save = saveRoll (summarizeRoll settings g.active .save) res.weapon res.target
      (q.situation.defender.hasState "inCover") := by
  obtain ⟨p, hp, h⟩ := bind_eq_ok.mp h
  obtain ⟨hweapon, htarget⟩ := foldlM_staged_eq_ok.mp hp
  obtain rfl := Except.ok.inj h
  exact ⟨hweapon, htarget, rfl, rfl, rfl⟩

theorem summary_withSave (s : RollSummary) (t : SaveTarget) : (s.withSave t).summary = s := by
  rw [RollSummary.withSave]
  split <;> rfl

/-- The rolls of a settled attack are summaries of the active effects. -/
theorem summary_roll {q : Request} {settings : Settings} {g : Gated} {effects : List RuleEffect}
    {missing : List String} {res : Resolution}
    (h : q.settle settings g effects missing = .ok res) (r : Roll) :
    (res.roll r).summary = summarizeRoll settings g.active r := by
  obtain ⟨-, -, hhit, hwound, hsave⟩ := rolls_of_settle h
  cases r with
  | hit => exact congrArg ResolvedRoll.summary hhit
  | wound => exact congrArg ResolvedRoll.summary hwound
  | save => exact (congrArg ResolvedRoll.summary hsave).trans (summary_withSave _ _)

theorem roll?_of_mem_received {r : Roll} {active : List Active} {a : Active}
    (h : a ∈ received r active) : a.effect.roll? = some r :=
  (decide_eq_true_eq.mp (List.mem_filter.mp h).2).1

/-- Every roll of a settled attack obeys its law. -/
theorem rollLaw_settle {q : Request} {settings : Settings} {g : Gated} {effects : List RuleEffect}
    {missing : List String} {res : Resolution}
    (h : q.settle settings g effects missing = .ok res) (r : Roll) :
    RollLaw settings r (received r g.active) (res.roll r).summary := by
  rw [summary_roll h r, summarizeRoll, touching_eq]
  exact rollLaw_summarize settings r fun a ha => roll?_of_mem_received ha

/-- Mechanics of the situation in another order make the same effects active. -/
theorem active_gatedWith_perm (q : Request) (b : Brought) {ms : List Mechanic}
    (h : ms.Perm q.situational) :
    (q.gatedWith b).active.Perm ({ q with situational := ms }.gatedWith b).active := by
  show (gateAll q.observe .attacker none (b.attackers ++ q.situational)
      ++ gateAll q.observe .defender none b.defenders).active.Perm
    (gateAll q.observe .attacker none (b.attackers ++ ms)
      ++ gateAll q.observe .defender none b.defenders).active
  rw [Gated.active_append, Gated.active_append, active_gateAll _ (b.attackers ++ q.situational),
    active_gateAll _ (b.attackers ++ ms)]
  exact ((h.symm.append_left b.attackers).flatMap_right _).append_right _

/-- **Closed form and order-independence of each roll.**  Every roll of an attack that is resolved
    obeys the law of its roll, about the active effects that its maker receives.  The request with
    its situational mechanics in another order is resolved as well, to the same rolls. -/
theorem rolls_of_resolveAttack {core : CoreRegistry} {faction : FactionRegistry}
    {settings : Settings} {q : Request} {res : Resolution}
    (h : resolveAttack core faction settings q = .ok res) :
    (∃ b, q.brought core faction = .ok b ∧
      ∀ r, RollLaw settings r (received r (q.gatedWith b).active) (res.roll r).summary) ∧
    ∀ ms : List Mechanic, ms.Perm q.situational → ∃ res',
      resolveAttack core faction settings { q with situational := ms } = .ok res' ∧
      ∀ r, SameRoll (res.roll r).summary (res'.roll r).summary := by
  rw [resolveAttack_eq] at h
  obtain ⟨b, hb, h⟩ := bind_eq_ok.mp h
  have hsettle : q.settleWith settings b = .ok res := mapError_eq_ok.mp h
  refine ⟨⟨b, hb, fun r => rollLaw_settle hsettle r⟩, fun ms hms => ?_⟩
  have hperm := active_gatedWith_perm q b hms
  obtain ⟨res', hsettle'⟩ := exists_settle_of_perm hperm ⟨res, hsettle⟩
  refine ⟨res', ?_, fun r => ?_⟩
  · rw [resolveAttack_eq]
    exact bind_eq_ok.mpr ⟨b, hb, mapError_eq_ok.mpr hsettle'⟩
  · exact (rollLaw_settle hsettle r).agree (hperm.filter _) (rollLaw_settle hsettle' r)

/-- A mechanic of the situation that speaks of the attacker and is not bound to any condition. -/
def plainEffect (e : Effect) : Mechanic := .effect .plain e

/-- A shot with two bonuses and a penalty to hit, of which the penalty is ignored. -/
def shot : Request where
  attackerArmy := .none
  defenderArmy := .none
  weapon := ⟨"Bolter", .integer 2, 3, 4, 0, .integer 1, none, []⟩
  target := ⟨"Ork", 5, 6, none, 1, []⟩
  situational := [plainEffect (.modifier .hit 1), plainEffect (.modifier .hit (-1)),
    plainEffect (.ignore .hit .penalties), plainEffect (.modifier .hit 1)]
  situation := ⟨.none, .none⟩

/-- The shot hits with the bonuses held to 1, in this order and in the reverse one. -/
theorem net_shot :
    ∃ res res', resolveAttack .empty .empty .standard shot = .ok res ∧
      resolveAttack .empty .empty .standard { shot with situational := shot.situational.reverse }
        = .ok res' ∧
      (res.roll .hit).summary.net = 1 ∧ (res'.roll .hit).summary.net = 1 := by
  obtain ⟨res, h⟩ : ∃ res, resolveAttack .empty .empty .standard shot = .ok res := ⟨_, rfl⟩
  obtain ⟨⟨b, hb, hlaw⟩, horder⟩ := rolls_of_resolveAttack h
  obtain ⟨res', h', hsame⟩ := horder _ (List.reverse_perm _)
  have hnet : (res.roll .hit).summary.net = 1 := by
    obtain rfl := Except.ok.inj hb
    exact (hlaw .hit).net
  exact ⟨res, res', h, h', hnet, (hsame .hit).net.symm.trans hnet⟩

end Muster.Combat
