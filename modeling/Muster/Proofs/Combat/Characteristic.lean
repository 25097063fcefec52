/-
  Characteristics: a profile watched at one of them.

  1. **Program.**  A profile is changed as a whole, one change after the other: a code names the field
     that a change is made to, and weapons and targets have fields of several types.

  2. **Specification.**  `finalValue` says what one characteristic comes to, without a profile in
     between: the last value that it can be set to, or its original one, with all that is added.

  3. **The crux** is that a change of the watched characteristic is seen as a change of its value, and
     a change of another is not seen at all.  `Characteristics` bundles this law with the reading of
     a profile, and nothing else need be known of weapons or targets.  So of a run of changes to a
     profile one sees a run of those addressed to the characteristic (`get_foldlM`).  In a list of
     settings and then raises the last setting counts and the raises add up (`foldl_onValue`).
-/
import Mathlib
import Muster.Proofs.Combat.Stage

namespace Muster.Combat

open Text Document

/-! ## One characteristic -/

/-- Whether a characteristic can be set to a value: to a number always, and to dice if it takes
    dice. -/
def settable (takesDice : Bool) : IntegerOrText → Bool
  | .integer _ => true
  | .text _ => takesDice

/-- A characteristic after a change: it is set to what it can be set to, and raised if it is not
    absent. -/
def Change.onValue (takesDice : Bool) (c : Change) (old : Option IntegerOrText) :
    Option IntegerOrText :=
  match c with
  | .set v => if settable takesDice v then some v else old
  | .raise k => old.map (raised k)

/-- A number with the sum of some numbers, or dice with each of them written behind. -/
def raisedBy (ks : List Int) : IntegerOrText → IntegerOrText
  | .integer n => .integer (n + ks.sum)
  | .text s => .text (s ++ String.join (ks.map fun k => "+" ++ String.ofList (signed k)))

/-- What a characteristic comes to, given the values that it is set to and the numbers by which it is
    raised, both in order. -/
def finalValue (takesDice : Bool) (values : List IntegerOrText) (numbers : List Int)
    (old : Option IntegerOrText) : Option IntegerOrText :=
  ((values.filter (settable takesDice)).getLast?.or old).map (raisedBy numbers)

theorem raisedBy_nil (d : IntegerOrText) : raisedBy [] d = d := by
  cases d with
  | integer n => rw [raisedBy, List.sum_nil, Int.add_zero]
  | text s => rw [raisedBy, List.map_nil, String.join_nil, String.append_empty]

theorem raisedBy_cons (k : Int) (ks : List Int) (d : IntegerOrText) :
    raisedBy (k :: ks) d = raisedBy ks (Change.raised k d) := by
  cases d with
  | integer n => rw [Change.raised, raisedBy, raisedBy, List.sum_cons, Int.add_assoc]
  | text s =>
    rw [Change.raised, raisedBy, raisedBy, List.map_cons, String.join_cons]
    simp only [String.append_assoc]

/-- What nothing addresses keeps its value. -/
theorem finalValue_nil (takesDice : Bool) (old : Option IntegerOrText) :
    finalValue takesDice [] [] old = old := by
  cases old with
  | none => rfl
  | some d => exact congrArg some (raisedBy_nil d)

/-- Of the values that a characteristic is set to the last one counts. -/
theorem foldl_onValue_set (takesDice : Bool) (old : Option IntegerOrText)
    (values : List IntegerOrText) :
    (values.map Change.set).foldl (fun old c => c.onValue takesDice old) old
      = (values.filter (settable takesDice)).getLast?.or old := by
  induction values using List.reverseRecOn with
  | nil => rfl
  | append_singleton values v ih =>
    rw [List.map_append, List.foldl_append, ih, List.filter_append]
    show (if settable takesDice v then some v else _) = _
    by_cases htaken : settable takesDice v = true
    · rw [if_pos htaken, List.filter_cons_of_pos htaken, List.filter_nil, List.getLast?_concat]
      rfl
    · rw [if_neg htaken, List.filter_cons_of_neg htaken, List.filter_nil, List.append_nil]

/-- Raises add up. -/
theorem foldl_onValue_raise (takesDice : Bool) (numbers : List Int) :
    ∀ old : Option IntegerOrText,
      (numbers.map Change.raise).foldl (fun old c => c.onValue takesDice old) old
        = old.map (raisedBy numbers) := by
  induction numbers with
  | nil =>
    intro old
    have hnone : raisedBy [] = id := funext raisedBy_nil
    rw [hnone, Option.map_id]
    rfl
  | cons k ks ih =>
    intro old
    have hfirst : raisedBy (k :: ks) = raisedBy ks ∘ Change.raised k := funext (raisedBy_cons k ks)
    rw [List.map_cons, List.foldl_cons, ih, hfirst, ← Option.map_map]
    rfl

/-- **Settings and then raises** come to the final value. -/
theorem foldl_onValue (takesDice : Bool) (values : List IntegerOrText) (numbers : List Int)
    (old : Option IntegerOrText) :
    (values.map Change.set ++ numbers.map Change.raise).foldl
        (fun old c => c.onValue takesDice old) old
      = finalValue takesDice values numbers old := by
  rw [List.foldl_append, foldl_onValue_set, foldl_onValue_raise, finalValue]

/-! ## Watching a profile at one characteristic -/

/-- How the characteristics of a profile are named, read and changed. -/
structure Characteristics (P φ : Type) [DecidableEq φ] where
  codes : List (String × φ)
  takesDice : φ → Bool
  get : P → φ → Option IntegerOrText
  /-- What is no characteristic: the name, and the texts that go with it. -/
  label : P → String × List String
  changeField : P → Change → φ → P
  /-- A change of a characteristic is a change of its value, and of no other's. -/
  get_changeField : ∀ p c f g, get (changeField p c f) g
    = if f = g then c.onValue (takesDice g) (get p g) else get p g
  label_changeField : ∀ p c f, label (changeField p c f) = label p

section

variable {P φ : Type} [DecidableEq φ]

/-- A profile after the change of what a code names. -/
def Characteristics.change (C : Characteristics P φ) (p : P) (c : String × Change) :
    Except LongNumeral P :=
  match fieldOf? C.codes c.1 with
  | some f => c.2.settle.map fun d => C.changeField p d f
  | none => .ok p

/-- The changes that are addressed to a characteristic. -/
def changesTo (codes : List (String × φ)) (f : φ) (cs : List (String × Change)) : List Change :=
  (cs.filter fun c => fieldOf? codes c.1 == some f).map Prod.snd

variable (C : Characteristics P φ)

/-- Whether a change can be made is told by the change alone: one to a characteristic needs a value
    that can be read, and an unknown code changes nothing. -/
theorem exists_change_iff (p : P) (c : String × Change) : (∃ p', C.change p c = .ok p') ↔
    ((fieldOf? C.codes c.1).isSome = true → ∃ d, c.2.settle = .ok d) := by
  rw [Characteristics.change]
  cases fieldOf? C.codes c.1 with
  | none => exact ⟨fun _ hsome => absurd hsome Bool.false_ne_true, fun _ => ⟨p, rfl⟩⟩
  | some f => exact exists_map_ok_iff.trans ⟨fun h _ => h, fun h => h rfl⟩

/-- What a change can do: nothing, if its code is unknown, or else to change one characteristic by a
    value that could be read. -/
theorem change_cases {p p' : P} {c : String × Change} (h : C.change p c = .ok p') :
    (fieldOf? C.codes c.1 = none ∧ p' = p) ∨
      ∃ f d, fieldOf? C.codes c.1 = some f ∧ c.2.settle = .ok d ∧ p' = C.changeField p d f := by
  rw [Characteristics.change] at h
  cases hfield : fieldOf? C.codes c.1 with
  | none =>
    rw [hfield] at h
    exact Or.inl ⟨rfl, (Except.ok.inj h).symm⟩
  | some f =>
    rw [hfield] at h
    obtain ⟨d, hd, rfl⟩ := map_eq_ok.mp h
    exact Or.inr ⟨f, d, rfl, hd, rfl⟩

/-- A change that is addressed to a characteristic, seen there. -/
theorem get_change_of_addressed {p p' : P} {c : String × Change} {f : φ}
    (h : C.change p c = .ok p') (hf : fieldOf? C.codes c.1 = some f) :
    ∃ d, c.2.settle = .ok d ∧ C.get p' f = d.onValue (C.takesDice f) (C.get p f) := by
  rcases change_cases C h with ⟨hnone, _⟩ | ⟨g, d, hg, hd, rfl⟩
  · rw [hf] at hnone
    exact nomatch hnone
  · obtain rfl : f = g := Option.some.inj (hf.symm.trans hg)
    refine ⟨d, hd, ?_⟩
    rw [C.get_changeField, if_pos rfl]

/-- Any other change is not seen. -/
theorem get_change_of_not_addressed {p p' : P} {c : String × Change} {f : φ}
    (h : C.change p c = .ok p') (hf : ¬ fieldOf? C.codes c.1 = some f) : C.get p' f = C.get p f := by
  rcases change_cases C h with ⟨_, rfl⟩ | ⟨g, d, hg, _, rfl⟩
  · rfl
  · have hother : ¬ g = f := by
      rintro rfl
      exact hf hg
    rw [C.get_changeField, if_neg hother]

theorem label_change {p p' : P} {c : String × Change} (h : C.change p c = .ok p') :
    C.label p' = C.label p := by
  rcases change_cases C h with ⟨_, rfl⟩ | ⟨f, d, _, _, rfl⟩
  · rfl
  · exact C.label_changeField p d f

/-- **A run of changes, watched at one characteristic**, is the run of those addressed to it. -/
theorem get_foldlM (f : φ) : ∀ (cs : List (String × Change)) {p p' : P},
    cs.foldlM C.change p = .ok p' →
    ∃ ds, (changesTo C.codes f cs).mapM Change.settle = .ok ds ∧
      C.get p' f = ds.foldl (fun old d => d.onValue (C.takesDice f) old) (C.get p f)
  | [], p, p', h => by
    rw [List.foldlM_nil] at h
    exact ⟨[], rfl, congrArg (C.get · f) (Except.ok.inj h).symm⟩
  | c :: cs, p, p', h => by
    rw [List.foldlM_cons] at h
    obtain ⟨p₁, hstep, hrun⟩ := bind_eq_ok.mp h
    -- of the profile in between, only its value at `f` is needed
    obtain ⟨ds, hds, hget⟩ := get_foldlM f cs hrun
    by_cases hf : fieldOf? C.codes c.1 = some f
    · obtain ⟨d, hd, hseen⟩ := get_change_of_addressed C hstep hf
      have hfirst : changesTo C.codes f (c :: cs) = c.2 :: changesTo C.codes f cs := by
        rw [changesTo, List.filter_cons_of_pos (by simpa using hf)]
        rfl
      refine ⟨d :: ds, ?_, ?_⟩
      · rw [hfirst, List.mapM_cons]
        exact bind_eq_ok.mpr ⟨d, hd, bind_eq_ok.mpr ⟨ds, hds, rfl⟩⟩
      · rw [hget, hseen, List.foldl_cons]
    · have hrest : changesTo C.codes f (c :: cs) = changesTo C.codes f cs := by
        rw [changesTo, List.filter_cons_of_neg (by simpa using hf)]
        rfl
      rw [hrest]
      refine ⟨ds, hds, ?_⟩
      rw [hget, get_change_of_not_addressed C hstep hf]

theorem label_foldlM {cs : List (String × Change)} {p p' : P}
    (h : cs.foldlM C.change p = .ok p') : C.label p' = C.label p := by
  refine @foldlM_induct _ _ _ _ (fun v => C.label v = C.label p) _ _ _ h rfl ?_
  intro c _ v v' hchange hkept
  rw [label_change C hchange, hkept]

end

/-! ## Weapons and targets -/

/-- A characteristic of a weapon as a value. -/
def WeaponProfile.value (w : WeaponProfile) : WeaponField → Option IntegerOrText
  | .attacks => some w.attacks
  | .skill => some (.integer w.skill)
  | .strength => some (.integer w.strength)
  | .ap => some (.integer w.ap)
  | .damage => some w.damage
  | .range => w.range

/-- Whether a characteristic of a weapon may hold dice. -/
def WeaponField.takesDice : WeaponField → Bool
  | .attacks | .damage | .range => true
  | .skill | .strength | .ap => false

theorem WeaponProfile.value_changeField (w : WeaponProfile) (c : Change) (f g : WeaponField) :
    (w.changeField c f).value g = if f = g then c.onValue g.takesDice (w.value g) else w.value g := by
  -- another field is not touched; the same one is changed by a number, by dice or by a raise
  cases f <;> cases g <;>
    first
    | rfl
    | rcases c with (_ | _) | _ <;> rfl

/-- A characteristic of a target as a value: all are numbers, and the invulnerable save may be
    absent. -/
def TargetProfile.value (t : TargetProfile) : TargetField → Option IntegerOrText
  | .toughness => some (.integer t.toughness)
  | .save => some (.integer t.save)
  | .invulnerableSave => t.invulnerableSave.map .integer
  | .wounds => some (.integer t.wounds)

theorem TargetProfile.value_changeField (t : TargetProfile) (c : Change) (f g : TargetField) :
    (t.changeField c f).value g = if f = g then c.onValue false (t.value g) else t.value g := by
  -- as with weapons; that nothing comes of raising what is absent shows in the profile itself
  cases f <;> cases g <;>
    first
    | rfl
    | rcases c with (_ | _) | _ <;> rfl
    | (rcases t with ⟨_, _, _, _ | _, _, _⟩ <;> rcases c with (_ | _) | _ <;> rfl)

/-- The characteristics of weapons. -/
def weaponCharacteristics : Characteristics WeaponProfile WeaponField where
  codes := weaponCodes
  takesDice := WeaponField.takesDice
  get := WeaponProfile.value
  label := fun w => (w.name, w.rules)
  changeField := WeaponProfile.changeField
  get_changeField := WeaponProfile.value_changeField
  label_changeField := by
    intro w c f
    cases f <;> rfl

theorem change_weaponCharacteristics (w : WeaponProfile) (c : String × Change) :
    weaponCharacteristics.change w c = w.change c.1 c.2 := by
  have hcodes : weaponCharacteristics.codes = weaponCodes := rfl
  rw [Characteristics.change, WeaponProfile.change, hcodes]
  cases fieldOf? weaponCodes c.1 <;> rfl

/-- The characteristics of targets. -/
def targetCharacteristics : Characteristics TargetProfile TargetField where
  codes := targetCodes
  takesDice := fun _ => false
  get := TargetProfile.value
  label := fun t => (t.name, t.keywords)
  changeField := TargetProfile.changeField
  get_changeField := TargetProfile.value_changeField
  label_changeField := by
    intro t c f
    cases f <;> rfl

theorem change_targetCharacteristics (t : TargetProfile) (c : String × Change) :
    targetCharacteristics.change t c = t.change c.1 c.2 := by
  have hcodes : targetCharacteristics.codes = targetCodes := rfl
  rw [Characteristics.change, TargetProfile.change, hcodes]
  cases fieldOf? targetCodes c.1 <;> rfl

theorem changedWeapon_eq (w : WeaponProfile) (active : List Active) : changedWeapon w active
    = (changes .attacker active).foldlM weaponCharacteristics.change w := by
  rw [changedWeapon]
  congr 1
  funext w c
  exact (change_weaponCharacteristics w c).symm

theorem changedTarget_eq (t : TargetProfile) (active : List Active) : changedTarget t active
    = (changes .defender active).foldlM targetCharacteristics.change t := by
  rw [changedTarget]
  congr 1
  funext t c
  exact (change_targetCharacteristics t c).symm

end Muster.Combat
