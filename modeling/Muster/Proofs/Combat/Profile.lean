/-
  Profiles: what the effects of both combatants make of weapon and target.

  1. **Program.**  The active effects of both combatants are gone through in one list, sorted so that
     what they SET comes before what they RAISE.  Each change is made to the profile of the side it
     works on, as that stands by then.

  2. **Specification.**  `ProfileLaw` says what comes of a profile, characteristic by characteristic:
     its final value under the values that effects on this side set it to and the numbers by which
     they raise it, each read off the list of effects in one go.

  3. **Order.**  It does not matter how settings and raises, or the effects of the two sides, are
     mixed in the list: the changes addressed to one characteristic are its settings and then its
     raises, whatever stands between them (`changesTo_changes`).
-/
import Mathlib
import Muster.Proofs.Combat.Characteristic
import Muster.Proofs.Combat.Roll

namespace Muster.Combat

open Text Document

/-! ## What active effects change -/

section

variable {P φ : Type} [DecidableEq φ]

/-- The effects that work on a side. -/
def effectsOn (side : Side) (active : List Active) : List Effect :=
  (active.filter fun a => a.recipient == side).map Active.effect

/-- The value that an effect sets a characteristic to. -/
def Effect.sets? (codes : List (String × φ)) (f : φ) : Effect → Option IntegerOrText
  | staticNumber code v => if fieldOf? codes code = some f then some v else none
  | _ => none

/-- The number by which an effect raises a characteristic. -/
def Effect.raises? (codes : List (String × φ)) (f : φ) : Effect → Option Int
  | characteristicBonus code n => if fieldOf? codes code = some f then some n else none
  | _ => none

/-- The values that active effects set a characteristic of a side to, in order. -/
def valuesSet (codes : List (String × φ)) (side : Side) (f : φ) (active : List Active) :
    List IntegerOrText :=
  (effectsOn side active).filterMap (Effect.sets? codes f)

/-- The numbers by which active effects raise a characteristic of a side, in order. -/
def numbersAdded (codes : List (String × φ)) (side : Side) (f : φ) (active : List Active) :
    List Int :=
  (effectsOn side active).filterMap (Effect.raises? codes f)

theorem changesTo_append (codes : List (String × φ)) (f : φ) (cs ds : List (String × Change)) :
    changesTo codes f (cs ++ ds) = changesTo codes f cs ++ changesTo codes f ds := by
  rw [changesTo, List.filter_append, List.map_append]
  rfl

/-- The changes to a characteristic among those that effects make can be told effect by effect. -/
theorem changesTo_filterMap {β : Type} {codes : List (String × φ)} {f : φ}
    {change? : Effect → Option (String × Change)} {own? : Effect → Option β} {k : β → Change}
    (h : ∀ e, ((change? e).filter fun c => fieldOf? codes c.1 == some f).map Prod.snd
      = (own? e).map k) (es : List Effect) :
    changesTo codes f (es.filterMap change?) = (es.filterMap own?).map k := by
  rw [changesTo, List.filter_filterMap, List.map_filterMap, List.map_filterMap]
  exact congrArg (es.filterMap ·) (funext h)

/-- The changes to a characteristic are its settings and then its raises. -/
theorem changesTo_changes (codes : List (String × φ)) (side : Side) (f : φ)
    (active : List Active) :
    changesTo codes f (changes side active)
      = (valuesSet codes side f active).map .set ++ (numbersAdded codes side f active).map .raise := by
  have hset : ∀ e : Effect, (e.setting?.filter fun c => fieldOf? codes c.1 == some f).map Prod.snd
      = (e.sets? codes f).map Change.set := by
    intro e
    cases e with
    | staticNumber code v =>
      by_cases hf : fieldOf? codes code = some f <;> simp [Effect.setting?, Effect.sets?, hf]
    | _ => rfl
  have hraise : ∀ e : Effect, (e.raising?.filter fun c => fieldOf? codes c.1 == some f).map Prod.snd
      = (e.raises? codes f).map Change.raise := by
    intro e
    cases e with
    | characteristicBonus code n =>
      by_cases hf : fieldOf? codes code = some f <;> simp [Effect.raising?, Effect.raises?, hf]
    | _ => rfl
  show changesTo codes f ((effectsOn side active).filterMap Effect.setting?
    ++ (effectsOn side active).filterMap Effect.raising?) = _
  rw [changesTo_append, changesTo_filterMap hset, changesTo_filterMap hraise]
  rfl

/-- Settings are settled by reading their values. -/
theorem mapM_settle_set : ∀ {values : List IntegerOrText} {ds : List Change},
    (values.map Change.set).mapM Change.settle = .ok ds →
    ∃ vs, values.mapM asParameter = .ok vs ∧ ds = vs.map .set
  | [], ds, h => ⟨[], rfl, (Except.ok.inj h).symm⟩
  | v :: values, ds, h => by
    rw [List.map_cons, List.mapM_cons] at h
    obtain ⟨d, hd, h⟩ := bind_eq_ok.mp h
    obtain ⟨v', hv, rfl⟩ := map_eq_ok.mp hd
    obtain ⟨rest, hrest, h⟩ := bind_eq_ok.mp h
    obtain ⟨vs, hvs, rfl⟩ := mapM_settle_set hrest
    obtain rfl := Except.ok.inj h
    refine ⟨v' :: vs, ?_, rfl⟩
    rw [List.mapM_cons]
    exact bind_eq_ok.mpr ⟨v', hv, bind_eq_ok.mpr ⟨vs, hvs, rfl⟩⟩

/-- Raises are settled as they are. -/
theorem mapM_settle_raise (numbers : List Int) :
    (numbers.map Change.raise).mapM Change.settle = .ok (numbers.map .raise) := by
  rw [mapM_eq_ok, List.forall₂_same]
  intro c hc
  obtain ⟨n, _, rfl⟩ := List.mem_map.mp hc
  rfl

/-- What the active effects make of the profile of a side. -/
structure ProfileLaw (C : Characteristics P φ) (side : Side) (active : List Active) (p p' : P) :
    Prop where
  /-- Each characteristic comes to its final value, with what it is set to read as parameters. -/
  final : ∀ f, ∃ vs, (valuesSet C.codes side f active).mapM asParameter = .ok vs ∧
    C.get p' f = finalValue (C.takesDice f) vs (numbersAdded C.codes side f active) (C.get p f)
  /-- What nothing addresses is kept. -/
  kept : ∀ f, valuesSet C.codes side f active = [] → numbersAdded C.codes side f active = [] →
    C.get p' f = C.get p f
  /-- So is what is no characteristic. -/
  label : C.label p' = C.label p

/-- The values that a characteristic is set to can be read in one way only. -/
theorem ProfileLaw.get_eq {C : Characteristics P φ} {side : Side} {active : List Active} {p p' : P}
    (h : ProfileLaw C side active p p') (f : φ) {vs : List IntegerOrText}
    (hvs : (valuesSet C.codes side f active).mapM asParameter = .ok vs) :
    C.get p' f
      = finalValue (C.takesDice f) vs (numbersAdded C.codes side f active) (C.get p f) := by
  obtain ⟨us, hus, hget⟩ := h.final f
  rw [hvs] at hus
  rw [hget, Except.ok.inj hus]

/-- **A profile after all changes** obeys the law of its side. -/
theorem profileLaw_foldlM (C : Characteristics P φ) {side : Side} {active : List Active} {p p' : P}
    (h : (changes side active).foldlM C.change p = .ok p') : ProfileLaw C side active p p' := by
  have hfinal : ∀ f, ∃ vs, (valuesSet C.codes side f active).mapM asParameter = .ok vs ∧
      C.get p' f
        = finalValue (C.takesDice f) vs (numbersAdded C.codes side f active) (C.get p f) := by
    intro f
    obtain ⟨ds, hds, hget⟩ := get_foldlM C f _ h
    -- what is addressed to `f` is settled in two parts, and only values have to be read
    rw [changesTo_changes, List.mapM_append] at hds
    obtain ⟨set, hset, hds⟩ := bind_eq_ok.mp hds
    obtain ⟨raise, hraise, hds⟩ := bind_eq_ok.mp hds
    obtain ⟨vs, hvs, rfl⟩ := mapM_settle_set hset
    rw [mapM_settle_raise] at hraise
    obtain rfl := Except.ok.inj hraise
    obtain rfl := Except.ok.inj hds
    exact ⟨vs, hvs, hget.trans (foldl_onValue _ _ _ _)⟩
  refine ⟨hfinal, fun f hset hraise => ?_, label_foldlM C h⟩
  obtain ⟨vs, hvs, hget⟩ := hfinal f
  rw [hset] at hvs
  obtain rfl : [] = vs := Except.ok.inj hvs
  rw [hget, hraise, finalValue_nil]

end

/-! ## The whole attack -/

/-- **The profiles of an attack in closed form.**  If an attack is resolved, each characteristic of
    the weapon comes to its final value under what works on the attacker, and each one of the target
    under what works on the defender. -/
theorem profiles_of_resolveAttack {core : CoreRegistry} {faction : FactionRegistry}
    {settings : Settings} {q : Request} {res : Resolution}
    (h : resolveAttack core faction settings q = .ok res) :
    ∃ b, q.brought core faction = .ok b ∧
      ProfileLaw weaponCharacteristics .attacker (q.gatedWith b).active q.weapon res.weapon ∧
      ProfileLaw targetCharacteristics .defender (q.gatedWith b).active q.target res.target := by
  rw [resolveAttack_eq] at h
  obtain ⟨b, hb, h⟩ := bind_eq_ok.mp h
  have hsettle : q.settleWith settings b = .ok res := mapError_eq_ok.mp h
  obtain ⟨hweapon, htarget, -⟩ := rolls_of_settle hsettle
  rw [changedWeapon_eq] at hweapon
  rw [changedTarget_eq] at htarget
  exact ⟨b, hb, profileLaw_foldlM _ hweapon, profileLaw_foldlM _ htarget⟩

/-- A volley of `D6` shots, with bonuses and settings for both sides in no order. -/
def volley : Request where
  attackerArmy := .none
  defenderArmy := .none
  weapon := ⟨"Cannon", .text "D6", 4, 8, -1, .integer 2, none, []⟩
  target := ⟨"Ork", 5, 6, none, 1, []⟩
  situational := [plainEffect (.characteristicBonus "A" 1),
    plainEffect (.characteristicBonus "BS" 1), plainEffect (.staticNumber "bs" (.text "2+")),
    .effect ⟨.targetUnit, [], none⟩ (.characteristicBonus "T" 1),
    plainEffect (.staticNumber "s" (.text "D3")), plainEffect (.characteristicBonus "range" 6),
    .effect ⟨.targetUnit, [], none⟩ (.characteristicBonus "invsv" 1),
    plainEffect (.characteristicBonus "a" 2)]
  situation := ⟨.none, .none⟩

/-- The volley has its bonuses behind the dice, its skill is set before it is raised, its strength is
    not set to dice, and neither a range nor an invulnerable save comes from nothing. -/
theorem profiles_volley :
    ∃ res, resolveAttack .empty .empty .standard volley = .ok res ∧
      res.weapon.value .attacks = some (.text "D6+1+2") ∧
      res.weapon.value .skill = some (.integer 3) ∧
      res.weapon.value .strength = some (.integer 8) ∧ res.weapon.value .range = none ∧
      res.target.value .toughness = some (.integer 6) ∧
      res.target.value .invulnerableSave = none := by
  obtain ⟨res, h⟩ : ∃ res, resolveAttack .empty .empty .standard volley = .ok res := ⟨_, rfl⟩
  obtain ⟨b, hb, hweapon, htarget⟩ := profiles_of_resolveAttack h
  obtain rfl := Except.ok.inj hb
  refine ⟨res, h, hweapon.get_eq .attacks rfl, hweapon.get_eq .skill rfl,
    hweapon.get_eq .strength rfl, hweapon.get_eq .range rfl, htarget.get_eq .toughness rfl, ?_⟩
  exact htarget.get_eq .invulnerableSave rfl

end Muster.Combat
