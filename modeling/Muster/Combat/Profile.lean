/-
  Profiles: the characteristics of a weapon and of a target.

  Most characteristics are numbers.  Attacks, damage and range may also be DICE, texts such as `D6`.
  A mechanic changes a characteristic in one of two ways:
    (1) it SETS it to a value, a number or dice; where only a number will do, other values change
        nothing.  A text is read as a parameter first, and a number too long to be read is an error;
    (2) it RAISES it: a number is added to a number, and is written behind dice, as in `D6+2`; what
        is absent stays absent.
  Rule data names a characteristic by a short code, such as `bs`, in any case.
-/
import Muster.Combat.Template
import Muster.Document.Writer
import Muster.Text.LetterCase

namespace Muster.Combat

open Text Document

/-- The profile of a weapon. -/
structure WeaponProfile where
  name : String
  attacks : IntegerOrText
  skill : Int
  strength : Int
  ap : Int
  damage : IntegerOrText
  range : Option IntegerOrText
  /-- The texts of the weapon's rules. -/
  rules : List String
deriving Repr, DecidableEq

/-- The profile of a target. -/
structure TargetProfile where
  name : String
  toughness : Int
  save : Int
  invulnerableSave : Option Int
  wounds : Int
  keywords : List String
deriving Repr, DecidableEq

/-! ## Changes -/

/-- A change of a characteristic. -/
inductive Change where
  | set (value : IntegerOrText)
  | raise (n : Int)
deriving Repr, DecidableEq

namespace Change

/-- A change with its value read as a parameter. -/
def settle : Change → Except LongNumeral Change
  | set v => (asParameter v).map set
  | raise n => .ok (raise n)

/-- A characteristic that is a number, after a change. -/
def onNumber (c : Change) (n : Int) : Int :=
  match c with
  | set (.integer m) => m
  | set (.text _) => n
  | raise k => n + k

/-- A characteristic that is a number or absent, after a change. -/
def onNumberIfAny (c : Change) (n : Option Int) : Option Int :=
  match c with
  | set (.integer m) => some m
  | set (.text _) => n
  | raise k => n.map (· + k)

/-- A number or dice with a number added. -/
def raised (k : Int) : IntegerOrText → IntegerOrText
  | .integer n => .integer (n + k)
  | .text s => .text (s ++ "+" ++ String.ofList (signed k))

/-- A characteristic that is a number or dice, after a change. -/
def onDice (c : Change) (d : IntegerOrText) : IntegerOrText :=
  match c with
  | set v => v
  | raise k => raised k d

/-- A characteristic that is a number, dice or absent, after a change. -/
def onDiceIfAny (c : Change) (d : Option IntegerOrText) : Option IntegerOrText :=
  match c with
  | set v => some v
  | raise k => d.map (raised k)

end Change

/-! ## Characteristics -/

/-- A characteristic of a weapon. -/
inductive WeaponField where
  | attacks
  | skill
  | strength
  | ap
  | damage
  | range
deriving Repr, DecidableEq

/-- The codes of a weapon's characteristics. -/
def weaponCodes : List (String × WeaponField) := [
  ("a", .attacks), ("bs", .skill), ("ws", .skill), ("bsws", .skill), ("s", .strength), ("ap", .ap),
  ("d", .damage), ("range", .range)]

/-- A characteristic of a target. -/
inductive TargetField where
  | toughness
  | save
  | invulnerableSave
  | wounds
deriving Repr, DecidableEq

/-- The codes of a target's characteristics. -/
def targetCodes : List (String × TargetField) := [
  ("t", .toughness), ("sv", .save), ("invsv", .invulnerableSave), ("w", .wounds)]

/-- The characteristic that a code names, in any case. -/
def fieldOf? {α : Type} (codes : List (String × α)) (code : String) : Option α :=
  codes.lookup (String.ofList (lower code.toList))

/-- A weapon's profile with one characteristic changed. -/
def WeaponProfile.changeField (w : WeaponProfile) (c : Change) : WeaponField → WeaponProfile
  | .attacks => { w with attacks := c.onDice w.attacks }
  | .skill => { w with skill := c.onNumber w.skill }
  | .strength => { w with strength := c.onNumber w.strength }
  | .ap => { w with ap := c.onNumber w.ap }
  | .damage => { w with damage := c.onDice w.damage }
  | .range => { w with range := c.onDiceIfAny w.range }

/-- A weapon's profile after a change; an unknown code changes nothing. -/
def WeaponProfile.change (w : WeaponProfile) (code : String) (c : Change) :
    Except LongNumeral WeaponProfile :=
  match fieldOf? weaponCodes code with
  | some f => c.settle.map fun c => w.changeField c f
  | none => .ok w

/-- A target's profile with one characteristic changed. -/
def TargetProfile.changeField (t : TargetProfile) (c : Change) : TargetField → TargetProfile
  | .toughness => { t with toughness := c.onNumber t.toughness }
  | .save => { t with save := c.onNumber t.save }
  | .invulnerableSave => { t with invulnerableSave := c.onNumberIfAny t.invulnerableSave }
  | .wounds => { t with wounds := c.onNumber t.wounds }

/-- A target's profile after a change; an unknown code changes nothing. -/
def TargetProfile.change (t : TargetProfile) (code : String) (c : Change) :
    Except LongNumeral TargetProfile :=
  match fieldOf? targetCodes code with
  | some f => c.settle.map fun c => t.changeField c f
  | none => .ok t

/-! ## Records -/

/-- A weapon's profile from a document value. -/
def WeaponProfile.read : Reader WeaponProfile := record fun v =>
  WeaponProfile.mk
    <$> required v "name" text
    <*> optional v "attacks" (.integer 1) integerOrText
    <*> optional v "skill" 4 (atMost 6 (atLeast 2 integer))
    <*> required v "strength" (atLeast 1 integer)
    <*> optional v "ap" 0 integer
    <*> optional v "damage" (.integer 1) integerOrText
    <*> optional v "range" none (nullable integerOrText)
    <*> optional v "attributes" [] (listOf text)

/-- A weapon's profile as a document value. -/
def WeaponProfile.toValue (w : WeaponProfile) : Value := .ofFields [
  ("name", .text w.name), ("attacks", .ofIntegerOrText w.attacks), ("skill", .int w.skill),
  ("strength", .int w.strength), ("ap", .int w.ap), ("damage", .ofIntegerOrText w.damage),
  ("range", .ofOption .ofIntegerOrText w.range), ("attributes", .texts w.rules)]

/-- A target's profile from a document value. -/
def TargetProfile.read : Reader TargetProfile := record fun v =>
  TargetProfile.mk
    <$> optional v "name" "" text
    <*> required v "toughness" (atLeast 1 integer)
    <*> optional v "save" 7 (atMost 7 (atLeast 2 integer))
    <*> optional v "invulnerable_save" none (nullable (atMost 6 (atLeast 2 integer)))
    <*> optional v "wounds" 1 integer
    <*> optional v "keywords" [] (listOf text)

/-- A target's profile as a document value. -/
def TargetProfile.toValue (t : TargetProfile) : Value := .ofFields [
  ("name", .text t.name), ("toughness", .int t.toughness), ("save", .int t.save),
  ("invulnerable_save", .ofOption .int t.invulnerableSave), ("wounds", .int t.wounds),
  ("keywords", .texts t.keywords)]

end Muster.Combat
