/-
  Settings: the bounds on enumeration and the cap on modifiers.

  The bounds are part of the type: a value of `Settings` always allows one variant per loadout, two
  loadouts per model type and one selection, so no function that takes settings checks them again.
  Reading a document reports each value that is out of range; settings can also come from
  environment variables, one per bound, whose texts are read like any other document value.
-/
import Muster.Document.Reader

namespace Muster

open Document

/-- The bounds that the engine works within. -/
structure Settings where
  /-- The most variants that one option may add to one loadout. -/
  maxBranching : Nat
  /-- The most loadouts that one model type may have. -/
  maxLoadouts : Nat
  /-- The largest count in "up to that many of the following" that is enumerated. -/
  maxEnumerated : Nat
  /-- The bound on the net modifier of a hit or wound roll. -/
  hitWoundCap : Nat
  one_le_maxBranching : 1 ≤ maxBranching
  two_le_maxLoadouts : 2 ≤ maxLoadouts
  one_le_maxEnumerated : 1 ≤ maxEnumerated
  maxEnumerated_le : maxEnumerated ≤ 100

namespace Settings

/-- The settings that hold when none are given. -/
def standard : Settings where
  maxBranching := 64
  maxLoadouts := 4096
  maxEnumerated := 10
  hitWoundCap := 1
  one_le_maxBranching := by decide
  two_le_maxLoadouts := by decide
  one_le_maxEnumerated := by decide
  maxEnumerated_le := by decide

/-! ## Reading -/

/-- A natural number not below a bound. -/
def natFrom (low : Nat) : Reader { n : Nat // low ≤ n } := fun v =>
  (integer v).andThen fun n =>
    if h : (low : Int) ≤ n then .ok ⟨n.toNat, by omega⟩ else .refuse .greaterThanEqual

/-- A natural number between two bounds. -/
def natBetween (low high : Nat) : Reader { n : Nat // low ≤ n ∧ n ≤ high } := fun v =>
  (natFrom low v).andThen fun n =>
    if h : n.val ≤ high then .ok ⟨n.val, n.property, h⟩ else .refuse .lessThanEqual

/-- The bound on loadouts, which must leave room for a variant beside the default. -/
def loadoutBound : Reader { n : Nat // 2 ≤ n } := fun v =>
  (natFrom 1 v).andThen fun n =>
    if h : 2 ≤ n.val then .ok ⟨n.val, h⟩
    else .refuse (.valueError
      "max_loadouts_per_model_type must allow at least the default and one variant")

/-- Settings from a document value. -/
def read : Reader Settings := record fun v =>
  (fun b l e c => Settings.mk b.val l.val e.val c.val b.property l.property e.property.1
      e.property.2)
    <$> optional v "max_branching" ⟨64, by decide⟩ (natFrom 1)
    <*> optional v "max_loadouts_per_model_type" ⟨4096, by decide⟩ loadoutBound
    <*> optional v "max_enumerated_count" ⟨10, by decide⟩ (natBetween 1 100)
    <*> optional v "hit_wound_cap" ⟨1, by decide⟩ (natFrom 0)

/-- The variables that set the bounds, each with the field it sets. -/
def environmentFields : List (String × String) := [
  ("CODEX_ENGINE_MAX_BRANCHING", "max_branching"),
  ("CODEX_ENGINE_MAX_LOADOUTS_PER_MODEL_TYPE", "max_loadouts_per_model_type"),
  ("CODEX_ENGINE_MAX_ENUMERATED_COUNT", "max_enumerated_count"),
  ("CODEX_ENGINE_HIT_WOUND_CAP", "hit_wound_cap")]

/-- Settings from environment variables; a blank variable counts as unset. -/
def fromEnvironment (env : List (String × String)) : Checked Settings :=
  read (.ofFields (environmentFields.filterMap fun p => do
    let raw ← env.lookup p.1
    let s := Text.trim raw.toList
    if s.isEmpty then none else some (p.2, .text (String.ofList s))))

/-! ## Writing -/

/-- Settings as a document value. -/
def toValue (s : Settings) : Value := .ofFields [
  ("max_branching", .int s.maxBranching),
  ("max_loadouts_per_model_type", .int s.maxLoadouts),
  ("max_enumerated_count", .int s.maxEnumerated),
  ("hit_wound_cap", .int s.hitWoundCap)]

end Settings

end Muster
