/-
  Capping: what the modifiers to one roll come to.

  The modifiers to a roll are added up, bonuses and penalties apart.  For a hit or a wound roll the
  NET modifier is the sum held within a bound on both sides, for a save it is the sum itself.  When
  the bound is exceeded, every modifier to the roll is marked: the rules do not say which of them
  went too far, so none is singled out.  A modifier of zero is neither a bonus nor a penalty.
-/
import Muster.Combat.Roll
import Muster.Combat.Source
import Muster.Settings

namespace Muster.Combat

open Document

/-- A signed number added to a roll. -/
structure Modifier where
  value : Int
  source : Source
  description : Option String
  /-- Whether the total that this modifier is part of exceeded the bound. -/
  isCapped : Bool
deriving Repr, DecidableEq

/-- The modifiers of a roll with their net. -/
structure Capped where
  modifiers : List Modifier
  net : Int
  wasCapped : Bool
deriving Repr, DecidableEq

/-- The modifiers above zero. -/
def bonuses (ms : List Modifier) : List Modifier := ms.filter fun m => m.value > 0

/-- The modifiers below zero. -/
def penalties (ms : List Modifier) : List Modifier := ms.filter fun m => m.value < 0

/-- The sum of modifiers. -/
def total : List Modifier → Int
  | [] => 0
  | m :: ms => m.value + total ms

/-- The number between two bounds that is nearest to a number. -/
def clamp (low high n : Int) : Int := max low (min high n)

/-- How far the net modifier of a roll may be from zero; nothing if there is no bound. -/
def Roll.bound? (s : Settings) : Roll → Option Nat
  | hit | wound => some s.hitWoundCap
  | save => none

/-- The modifiers of a roll under its bound. -/
def cap (s : Settings) (r : Roll) (ms : List Modifier) : Capped :=
  let sum := total (bonuses ms) + total (penalties ms)
  match r.bound? s with
  | none => ⟨ms, sum, false⟩
  | some b =>
    let net := clamp (-b) b sum
    let exceeded := net != sum
    ⟨ms.map fun m => { m with isCapped := exceeded }, net, exceeded⟩

/-! ## Breakdown -/

/-- The modifiers of a roll for display: bonuses and penalties with the names of their sources, the
    net, and the net again if it was capped. -/
structure Breakdown where
  bonuses : List (String × Int)
  penalties : List (String × Int)
  net : Int
  cappedTo : Option Int
deriving Repr, DecidableEq

/-- A modifier for display. -/
def Modifier.entry (m : Modifier) : String × Int := (m.source.name, m.value)

/-- The breakdown of the modifiers of a roll. -/
def breakdown (s : Settings) (r : Roll) (ms : List Modifier) : Breakdown :=
  let capped := cap s r ms
  { bonuses := (bonuses ms).map Modifier.entry
    penalties := (penalties ms).map Modifier.entry
    net := capped.net
    cappedTo := if capped.wasCapped then some capped.net else none }

/-! ## Records -/

/-- A modifier from a document value. -/
def Modifier.read : Reader Modifier := record fun v =>
  Modifier.mk
    <$> required v "value" integer
    <*> required v "source" Source.read
    <*> optional v "description" none (nullable text)
    <*> optional v "is_capped" false boolean

/-- A modifier as a document value. -/
def Modifier.toValue (m : Modifier) : Value := .ofFields [
  ("value", .int m.value), ("source", m.source.toValue),
  ("description", .ofOption .text m.description), ("is_capped", .bool m.isCapped)]

/-- Capped modifiers as a document value. -/
def Capped.toValue (c : Capped) : Value := .ofFields [
  ("modifiers", .ofList Modifier.toValue c.modifiers), ("net_value", .int c.net),
  ("was_capped", .bool c.wasCapped)]

/-- A breakdown as a document value. -/
def Breakdown.toValue (b : Breakdown) : Value :=
  let entry := fun (e : String × Int) => Value.ofFields [("source", .text e.1), ("value", .int e.2)]
  .ofFields [
    ("bonuses", .ofList entry b.bonuses), ("penalties", .ofList entry b.penalties),
    ("net_modifier", .int b.net), ("capped_to", .ofOption .int b.cappedTo)]

end Muster.Combat
