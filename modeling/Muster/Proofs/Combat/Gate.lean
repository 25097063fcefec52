/-
  Gating: what a gate meets, told without its recursion.

  1. **Program.**  `gate` walks a tree of mechanics.  It opens a conditional whose conditions hold,
     hands its source down to what states none, and collects three lists on the way.

  2. **Specification.**  `nodes` lists every mechanic of a tree in reading order, each with the
     frames of ALL conditionals around it.  A node is reached if the conditions of all these frames
     hold, its source is the nearest that is stated, and what a gate meets is read off the list:
     the reached nodes that hold are applied, the other reached nodes are not, and the effects among
     the applied ones are active.

  3. **The crux (`gate_eq_met`)** is an induction over the tree that carries the frames around:
     these hold, and the source handed down is the nearest one stated among them.  Where a
     conditional fails, the induction stops, and nothing within it is reached
     (`not_reached_of_mem_nodesAll`).

  4. A LEAF is an effect on its own, under the conditions along its path.  Gating the leaves instead
     of the trees makes the same effects active, up to their conditions, of which no later stage
     takes notice (`active_gateAll_leaves`).
-/
import Mathlib
import Muster.Combat.Gate

namespace Muster.Combat

variable {s : Situation} {owner : Side}

/-! ## Lists of mechanics -/

@[simp] theorem Gated.active_append (g h : Gated) : (g ++ h).active = g.active ++ h.active := rfl

@[simp] theorem Gated.applied_append (g h : Gated) : (g ++ h).applied = g.applied ++ h.applied :=
  rfl

@[simp] theorem Gated.notApplied_append (g h : Gated) :
    (g ++ h).notApplied = g.notApplied ++ h.notApplied := rfl

@[ext] theorem Gated.ext {g h : Gated} (hactive : g.active = h.active)
    (happlied : g.applied = h.applied) (hnot : g.notApplied = h.notApplied) : g = h := by
  cases g
  cases h
  cases hactive
  cases happlied
  cases hnot
  rfl

theorem gateAll_append (source : Option Source) (ms ns : List Mechanic) :
    gateAll s owner source (ms ++ ns) = gateAll s owner source ms ++ gateAll s owner source ns := by
  induction ms with
  | nil =>
    rw [gateAll]
    rfl
  | cons m ms ih =>
    rw [List.cons_append, gateAll, gateAll, ih]
    ext1 <;> simp only [Gated.active_append, Gated.applied_append, Gated.notApplied_append,
      List.append_assoc]

/-- What a list of mechanics makes active is what each of them does. -/
theorem active_gateAll (source : Option Source) (ms : List Mechanic) :
    (gateAll s owner source ms).active = ms.flatMap fun m => (gate s owner source m).active := by
  induction ms with
  | nil => rw [gateAll]; rfl
  | cons m ms ih => rw [gateAll, Gated.active_append, ih, List.flatMap_cons]

/-! ## The nodes of a tree -/

/-- A mechanic in its place: with the frames of the conditionals around it, the nearest first. -/
structure Node where
  around : List Frame
  mechanic : Mechanic

mutual

/-- The mechanics of a tree in reading order. -/
def nodes (around : List Frame) : Mechanic → List Node
  | .effect f e => [⟨around, .effect f e⟩]
  | .conditional f ms => ⟨around, .conditional f ms⟩ :: nodesAll (f :: around) ms

/-- The mechanics of several trees in reading order. -/
def nodesAll (around : List Frame) : List Mechanic → List Node
  | [] => []
  | m :: ms => nodes around m ++ nodesAll around ms

end

/-- The nearest source that is stated. -/
def nearestSource (fs : List Frame) : Option Source := fs.findSome? Frame.source

namespace Node

/-- The frames along the path to a node, its own first. -/
def path (n : Node) : List Frame := n.mechanic.frame :: n.around

/-- The source of a node: its own, or that of the nearest conditional around it that states one. -/
def source (n : Node) : Option Source := nearestSource n.path

/-- Whether the conditions of everything around a node hold. -/
def reached (s : Situation) (owner : Side) (n : Node) : Bool :=
  n.around.all fun f => f.holds s owner

/-- Whether a node is reached and its own conditions hold. -/
def passes (s : Situation) (owner : Side) (n : Node) : Bool :=
  n.reached s owner && n.mechanic.frame.holds s owner

/-- Whether a node is reached and its own conditions do not hold. -/
def fails (s : Situation) (owner : Side) (n : Node) : Bool :=
  n.reached s owner && !n.mechanic.frame.holds s owner

/-- The mechanic of a node with its source. -/
def sourced (n : Node) : Mechanic :=
  match n.mechanic with
  | .effect f e => .effect { f with source := n.source } e
  | .conditional f ms => .conditional { f with source := n.source } ms

/-- The effect of a node with its source, if the node is one. -/
def active? (owner : Side) (n : Node) : Option Active :=
  match n.mechanic with
  | .effect f e => some ⟨owner, { f with source := n.source }, e⟩
  | .conditional .. => none

end Node

/-- What a gate meets of some nodes. -/
def met (s : Situation) (owner : Side) (ns : List Node) : Gated where
  active := (ns.filter (Node.passes s owner)).filterMap (Node.active? owner)
  applied := (ns.filter (Node.passes s owner)).map Node.sourced
  notApplied := (ns.filter (Node.fails s owner)).map Node.sourced

theorem met_append (ns ms : List Node) :
    met s owner (ns ++ ms) = met s owner ns ++ met s owner ms := by
  ext1 <;> simp [met]

theorem met_singleton_pass {n : Node} (h : n.passes s owner = true) :
    met s owner [n] = ⟨(n.active? owner).toList, [n.sourced], []⟩ := by
  have hnot : n.fails s owner = false := by
    rw [Node.passes, Bool.and_eq_true] at h
    rw [Node.fails, h.1, h.2]
    rfl
  rw [met, List.filter_singleton, List.filter_singleton, h, hnot]
  cases hactive : n.active? owner <;> simp [hactive]

theorem met_singleton_fail {n : Node} (h : n.fails s owner = true) :
    met s owner [n] = .closed n.sourced := by
  have hnot : n.passes s owner = false := by
    rw [Node.fails, Bool.and_eq_true, Bool.not_eq_true'] at h
    rw [Node.passes, h.1, h.2]
    rfl
  rw [met, List.filter_singleton, List.filter_singleton, h, hnot]
  rfl

/-- Nothing is met of nodes that are not reached. -/
theorem met_of_not_reached {ns : List Node} (h : ∀ n ∈ ns, n.reached s owner = false) :
    met s owner ns = .empty := by
  have hpasses : ns.filter (Node.passes s owner) = [] := by
    rw [List.filter_eq_nil_iff]
    intro n hn
    rw [Node.passes, h n hn]
    exact Bool.false_ne_true
  have hfails : ns.filter (Node.fails s owner) = [] := by
    rw [List.filter_eq_nil_iff]
    intro n hn
    rw [Node.fails, h n hn]
    exact Bool.false_ne_true
  rw [met, hpasses, hfails]
  rfl

/-- Each node that is reached is recorded once, as applied or as not applied. -/
theorem recorded_perm (ns : List Node) :
    ((met s owner ns).applied ++ (met s owner ns).notApplied).Perm
      ((ns.filter (Node.reached s owner)).map Node.sourced) := by
  have hsplit := List.filter_append_perm (fun n : Node => n.mechanic.frame.holds s owner)
    (ns.filter (Node.reached s owner))
  rw [List.filter_filter, List.filter_filter] at hsplit
  simp only [Bool.and_comm _ (Node.reached s owner _)] at hsplit
  show (List.map _ _ ++ List.map _ _).Perm _
  rw [← List.map_append]
  exact hsplit.map Node.sourced

/-! ## The walk -/

mutual

/-- The frames around a tree are around each of its nodes. -/
theorem suffix_of_mem_nodes (around : List Frame) :
    ∀ (m : Mechanic), ∀ n ∈ nodes around m, around <:+ n.around
  | .effect f e, n, hn => by
    rw [nodes, List.mem_singleton] at hn
    rw [hn]
  | .conditional f ms, n, hn => by
    rw [nodes, List.mem_cons] at hn
    rcases hn with rfl | hn
    · exact List.suffix_refl around
    · exact (List.suffix_cons f around).trans (suffix_of_mem_nodesAll (f :: around) ms n hn)

theorem suffix_of_mem_nodesAll (around : List Frame) :
    ∀ (ms : List Mechanic), ∀ n ∈ nodesAll around ms, around <:+ n.around
  | [], n, hn => by
    rw [nodesAll] at hn
    cases hn
  | m :: ms, n, hn => by
    rw [nodesAll, List.mem_append] at hn
    rcases hn with hn | hn
    · exact suffix_of_mem_nodes around m n hn
    · exact suffix_of_mem_nodesAll around ms n hn

end

/-- Nothing within a conditional that fails is reached. -/
theorem not_reached_of_mem_nodesAll {f : Frame} {around : List Frame} {ms : List Mechanic}
    (hf : f.holds s owner = false) {n : Node} (hn : n ∈ nodesAll (f :: around) ms) :
    n.reached s owner = false := by
  have hmem : f ∈ n.around :=
    (suffix_of_mem_nodesAll (f :: around) ms n hn).subset List.mem_cons_self
  rw [Node.reached, List.all_eq_false]
  exact ⟨f, hmem, by rw [hf]; exact Bool.false_ne_true⟩

/-- A frame that inherits has the nearest source. -/
theorem inherit_eq (f : Frame) (around : List Frame) :
    f.inherit (nearestSource around) = { f with source := nearestSource (f :: around) } := by
  rw [Frame.inherit, nearestSource, nearestSource, List.findSome?_cons]
  cases f.source <;> rfl

theorem inherit_none (f : Frame) : f.inherit none = f := by
  rw [Frame.inherit, Option.or_none]

theorem holds_inherit (f : Frame) (source : Option Source) :
    (f.inherit source).holds s owner = f.holds s owner := rfl

mutual

/-- **What a gate meets** of a tree, where everything around it holds. -/
theorem gate_eq_met (around : List Frame) (h : (around.all fun f => f.holds s owner) = true) :
    ∀ m : Mechanic, gate s owner (nearestSource around) m = met s owner (nodes around m)
  | .effect f e => by
    rw [gate, nodes, holds_inherit, inherit_eq]
    cases hf : f.holds s owner with
    | true =>
      have hpass : (⟨around, .effect f e⟩ : Node).passes s owner = true :=
        Bool.and_eq_true_iff.mpr ⟨h, hf⟩
      rw [met_singleton_pass hpass]
      rfl
    | false =>
      have hfail : (⟨around, .effect f e⟩ : Node).fails s owner = true :=
        Bool.and_eq_true_iff.mpr ⟨h, congrArg not hf⟩
      rw [met_singleton_fail hfail]
      rfl
  | .conditional f ms => by
    rw [gate, nodes, holds_inherit, inherit_eq]
    show _ = met s owner ([⟨around, .conditional f ms⟩] ++ nodesAll (f :: around) ms)
    rw [met_append]
    cases hf : f.holds s owner with
    | true =>
      have hpass : (⟨around, .conditional f ms⟩ : Node).passes s owner = true :=
        Bool.and_eq_true_iff.mpr ⟨h, hf⟩
      -- the frames around what the conditional holds are its own and those around it
      have hinner : ((f :: around).all fun f => f.holds s owner) = true := by
        rw [List.all_cons, hf, h]
        rfl
      rw [met_singleton_pass hpass, ← gateAll_eq_met (f :: around) hinner ms]
      rfl
    | false =>
      have hfail : (⟨around, .conditional f ms⟩ : Node).fails s owner = true :=
        Bool.and_eq_true_iff.mpr ⟨h, congrArg not hf⟩
      rw [met_singleton_fail hfail,
        met_of_not_reached fun n hn => not_reached_of_mem_nodesAll hf hn]
      rfl

theorem gateAll_eq_met (around : List Frame) (h : (around.all fun f => f.holds s owner) = true) :
    ∀ ms : List Mechanic,
      gateAll s owner (nearestSource around) ms = met s owner (nodesAll around ms)
  | [] => by
    rw [gateAll, nodesAll]
    rfl
  | m :: ms => by
    rw [gateAll, nodesAll, met_append, gate_eq_met around h m, gateAll_eq_met around h ms]

end

/-! ## Leaves -/

/-- The conditions along the path to a node, the outermost first. -/
def Node.conditions (n : Node) : List Condition := n.path.reverse.flatMap Frame.conditions

/-- An effect on its own: under the conditions along its path, with its source. -/
def Node.leaf? (n : Node) : Option Mechanic :=
  match n.mechanic with
  | .effect f e => some (.effect ⟨f.entity, n.conditions, n.source⟩ e)
  | .conditional .. => none

/-- The leaves of trees, in reading order. -/
def leaves (ms : List Mechanic) : List Mechanic := (nodesAll [] ms).filterMap Node.leaf?

/-- An active effect without its conditions. -/
def Active.bare (a : Active) : Active := { a with frame := { a.frame with conditions := [] } }

/-- The conditions along a path hold exactly if the node passes. -/
theorem allHold_conditions (n : Node) : allHold n.conditions s owner = n.passes s owner := by
  rw [allHold, Node.conditions, List.all_flatMap, List.all_reverse, Node.path, List.all_cons,
    Bool.and_comm]
  rfl

theorem active_met_singleton (n : Node) :
    (met s owner [n]).active = if n.passes s owner then (n.active? owner).toList else [] := by
  cases hpass : n.passes s owner with
  | true => rw [met_singleton_pass hpass, if_pos rfl]
  | false =>
    rw [met, List.filter_singleton, hpass]
    rfl

/-- A gate takes the leaf of a node, if it has one, for the node, up to conditions. -/
theorem active_gateAll_leaf (n : Node) :
    (gateAll s owner none n.leaf?.toList).active.map Active.bare
      = (met s owner [n]).active.map Active.bare := by
  rw [active_met_singleton, active_gateAll]
  obtain ⟨around, m⟩ := n
  cases m with
  | effect f e =>
    show List.map _ (List.flatMap _ [_]) = _
    rw [List.flatMap_singleton, gate, inherit_none, Frame.holds, allHold_conditions]
    split <;> rfl
  | conditional f ms =>
    show [] = _
    split <;> rfl

/-- A gate takes the leaves of nodes for the nodes, up to conditions. -/
theorem active_gateAll_leaves (ns : List Node) :
    (gateAll s owner none (ns.filterMap Node.leaf?)).active.map Active.bare
      = (met s owner ns).active.map Active.bare := by
  induction ns with
  | nil => rw [List.filterMap_nil, gateAll]; rfl
  | cons n ns ih =>
    have hleaves : (n :: ns).filterMap Node.leaf? = n.leaf?.toList ++ ns.filterMap Node.leaf? := by
      rw [List.filterMap_cons]
      cases n.leaf? <;> rfl
    have hnodes : met s owner (n :: ns) = met s owner [n] ++ met s owner ns :=
      met_append [n] ns
    rw [hleaves, hnodes, gateAll_append, Gated.active_append, Gated.active_append,
      List.map_append, List.map_append, active_gateAll_leaf, ih]

end Muster.Combat
