/-
  Gating: which mechanics take part in a resolution.

  A mechanic whose conditions fail takes no part, and neither does anything within it.  One whose
  conditions hold is APPLIED: an effect becomes active, a conditional opens and its mechanics are
  gated in turn.  A mechanic without source takes over the source of the conditional around it.
  What the gate finds stands in reading order: a conditional before the mechanics it holds.
-/
import Muster.Combat.Mechanic

namespace Muster.Combat

/-- An effect that takes part, with its owner. -/
structure Active where
  owner : Side
  frame : Frame
  effect : Effect
deriving Repr, DecidableEq

/-- The side that an active effect works on: its owner's, or the other. -/
def Active.recipient (a : Active) : Side := a.frame.entity.side a.owner

/-- What a gate lets through, and what it met on the way. -/
structure Gated where
  active : List Active
  applied : List Mechanic
  notApplied : List Mechanic

namespace Gated

/-- Nothing met. -/
def empty : Gated := ⟨[], [], []⟩

instance : Append Gated where
  append a b :=
    ⟨a.active ++ b.active, a.applied ++ b.applied, a.notApplied ++ b.notApplied⟩

/-- A mechanic whose conditions fail. -/
def closed (m : Mechanic) : Gated := ⟨[], [], [m]⟩

end Gated

/-- A frame that takes over a source if it has none. -/
def Frame.inherit (source : Option Source) (f : Frame) : Frame :=
  { f with source := f.source.or source }

/-- Whether the conditions of a frame hold for its owner. -/
def Frame.holds (f : Frame) (s : Situation) (owner : Side) : Bool := allHold f.conditions s owner

mutual

/-- Gates a mechanic of a side; `source` is that of the conditional around it. -/
def gate (s : Situation) (owner : Side) (source : Option Source) : Mechanic → Gated
  | .effect f e =>
    let f := f.inherit source
    if f.holds s owner then ⟨[⟨owner, f, e⟩], [.effect f e], []⟩ else .closed (.effect f e)
  | .conditional f ms =>
    let f := f.inherit source
    if f.holds s owner then
      ⟨[], [.conditional f ms], []⟩ ++ gateAll s owner f.source ms
    else .closed (.conditional f ms)

/-- Gates mechanics of a side in order. -/
def gateAll (s : Situation) (owner : Side) (source : Option Source) : List Mechanic → Gated
  | [] => .empty
  | m :: ms => gate s owner source m ++ gateAll s owner source ms

end

end Muster.Combat
