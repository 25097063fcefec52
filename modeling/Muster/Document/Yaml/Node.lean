/-
  Nodes of YAML, and the values they stand for.

  A node is a scalar, a sequence or a mapping, with a tag.  A collection that was NAMED may stand in
  several places of a document; it keeps the value that was found for it once.

  **Cycles.**  A node may also stand within itself.  While it is read, such a place is a PENDING
  node, known by its name; when the node is complete, `tie` puts the node in that place.  The result
  is a tree, so the node is put in a few times over, and an ENDLESS node ends it.

  **Faults.**  A document with several faults has the one that is met first when values are found
  level by level: the nodes of a collection come after those of the collections around it, and
  within a level the order is that of the text.  `Graded` results carry the level of their fault.

  **Merging.**  The key `<<` of a mapping merges other mappings into it: their fields come before
  the mapping's own, which take precedence, and of a list of mappings the earlier ones take
  precedence.  What cannot be merged is told before any other fault of the mapping.  A key is a
  scalar; lists and mappings are no keys.
-/
import Muster.Document.Yaml.Scalar
import Muster.Table

namespace Muster.Document.Yaml

open Text

/-! ## Graded results -/

/-- A value, or a fault and its level. -/
abbrev Graded (α : Type) := Except (Nat × Fault) α

namespace Graded

/-- A fault at the level of the node itself. -/
def refuse {α : Type} (f : Fault) : Graded α := .error (0, f)

/-- A fault at the level of what the node holds. -/
def refuseWithin {α : Type} (f : Fault) : Graded α := .error (1, f)

/-- The result of something at the level of the node itself. -/
def here {α : Type} (r : Except Fault α) : Graded α := r.mapError fun f => (0, f)

/-- The result of a part one level deeper. -/
def within {α : Type} (r : Graded α) : Graded α := r.mapError fun p => (p.1 + 1, p.2)

/-- Two results, or the fault of the higher level, the first one's if both have the same. -/
def both {α β γ : Type} (f : α → β → γ) (x : Graded α) (y : Graded β) : Graded γ :=
  match x, y with
  | .ok a, .ok b => .ok (f a b)
  | .error p, .ok _ => .error p
  | .ok _, .error q => .error q
  | .error p, .error q => .error (if q.1 < p.1 then q else p)

end Graded

/-! ## Nodes -/

/-- A node. -/
inductive Node where
  | scalar (tag : Tag) (text : List Char)
  | sequence (tag : Tag) (items : List Node)
  | mapping (tag : Tag) (pairs : List (Node × Node))
  /-- A collection that was named, with its value. -/
  | named (node : Node) (value : Graded Value)
  /-- A named collection within itself, before it is complete. -/
  | pending (name : List Char)
  /-- A named collection within itself, where it is not written out any further. -/
  | endless

namespace Node

/-- The node that is not there. -/
def absent : Node := .scalar .null []

/-- Whether a node is the key that merges. -/
def isMerge : Node → Bool
  | .scalar .merge _ => true
  | _ => false

/-- Whether a node is the key that stands for the value as such. -/
def isDefault : Node → Bool
  | .scalar .default _ => true
  | _ => false

/-! ## Texts of scalars -/

mutual

/-- The text that a tag for scalars finds at a node; of a mapping it is that of the value as
    such. -/
def text? : Node → Option (List Char)
  | .scalar _ s => some s
  | .mapping _ ps => defaultText? ps
  | .named n _ => n.text?
  | .sequence .. | .pending _ | .endless => none

/-- The text of the value as such among the pairs of a mapping. -/
def defaultText? : List (Node × Node) → Option (List Char)
  | [] => none
  | (k, v) :: ps => if k.isDefault then v.text? else defaultText? ps

end

/-! ## Keys -/

/-- A value as a key, if it can be one. -/
def keyOf? : Value → Option Key
  | .text s => some (.text s)
  | .null => some (.other "None")
  | .bool b => some (.other (if b then "true" else "false"))
  | .int n => some (.other (String.ofList (signed n)))
  | .double x => some (.other (String.ofList x.render))
  | .foreign s => some (.other s)
  | .bytes bs => some (.other ((Value.textOfBytes? bs).getD ""))
  | .list _ | .object _ | .endless => none

/-- A value with its key, if it can be one.  A collection is no key, whatever faults it holds. -/
def asKey : Graded Value → Graded (Key × Value)
  | .ok v =>
    match keyOf? v with
    | some k => .ok (k, v)
    | none => .refuse .malformed
  | .error (level, f) => .refuse (if level == 0 then f else .malformed)

/-- What a key is told from others by: a truth value is the number 0 or 1, and a double without
    fraction is its integer. -/
def identity (k : Key) : Value → Key
  | .bool b => .other (if b then "1" else "0")
  | .double x =>
    match x.toInt? with
    | some n => .other (String.ofList (signed n))
    | none => k
  | _ => k

/-- Pairs of a key, its value, and the value under it. -/
abbrev Pairs := List ((Key × Value) × Value)

/-- Puts in a pair: a key that is there already stays, with the new value under it. -/
def Pairs.put (t : List (Key × (Key × Value) × Value)) (p : (Key × Value) × Value) :
    List (Key × (Key × Value) × Value) :=
  let i := identity p.1.1 p.1.2
  match t.lookup i with
  | some q => Table.put i (q.1, p.2) t
  | none => t ++ [(i, p)]

/-- Pairs with each key once. -/
def Pairs.distinct (ps : Pairs) : Pairs := (ps.foldl Pairs.put []).map Prod.snd

/-- Pairs as an object. -/
def Pairs.object (ps : Pairs) : Value := .object (ps.distinct.map fun p => (p.1.1, p.2))

/-- The keys of pairs as a list. -/
def Pairs.keys (ps : Pairs) : Value := .list (ps.distinct.map fun p => p.1.2)

/-! ## Merging -/

mutual

/-- Whether all that a mapping merges can be merged. -/
def canMerge : List (Node × Node) → Bool
  | [] => true
  | (k, v) :: ps => (!k.isMerge || v.isSource) && canMerge ps

/-- Whether a node can be merged: a mapping, or a list of mappings. -/
def isSource : Node → Bool
  | .mapping _ ps => canMerge ps
  | .sequence _ ns => areSources ns
  | .named n _ => n.isSource
  | .pending _ | .endless => true
  | .scalar .. => false

/-- Whether nodes can be merged as a list of mappings. -/
def areSources : List Node → Bool
  | [] => true
  | n :: ns => n.isListedSource && areSources ns

/-- Whether a node can stand in a list of mappings to be merged. -/
def isListedSource : Node → Bool
  | .mapping _ ps => canMerge ps
  | .named n _ => n.isListedSource
  | .pending _ | .endless => true
  | .scalar .. | .sequence .. => false

end

/-! ## Values -/

/-- The pairs of a mapping, refused before any other fault if it cannot be merged. -/
def mergedFirst (ps : List (Node × Node)) (r : Graded Pairs) : Graded Pairs :=
  if canMerge ps then r else .refuse .malformed

/-- Whether a tag is one for scalars. -/
def tagsScalar : Tag → Bool
  | .null | .boolean | .integer | .float | .timestamp | .text | .binary => true
  | _ => false

mutual

/-- The value of a node. -/
def value : Node → Graded Value
  | .scalar t s =>
    match t with
    | .list | .mapping | .set | .pairs => .refuseWithin .malformed
    | _ => .here (scalarValue t s)
  | .sequence t ns =>
    match t with
    | .list => (itemValues ns).within.map .list
    | .pairs => (pairLists ns).within.map .list
    | .mapping | .set => .refuseWithin .malformed
    | _ => .refuse .malformed
  | .mapping t ps =>
    match t with
    | .mapping => (mergedFirst ps (allPairs ps)).within.map Pairs.object
    | .set => (mergedFirst ps (allPairs ps)).within.map Pairs.keys
    | .list | .pairs => .refuseWithin .malformed
    | _ =>
      match defaultText? ps with
      | some s => if tagsScalar t then .here (scalarValue t s) else .refuse .malformed
      | none => .refuse .malformed
  | .named _ v => v
  | .pending _ | .endless => .ok .endless

/-- The values of nodes. -/
def itemValues : List Node → Graded (List Value)
  | [] => .ok []
  | n :: ns => Graded.both (fun v vs => v :: vs) n.value (itemValues ns)

/-- Mappings of one pair each, as lists of two. -/
def pairLists : List Node → Graded (List Value)
  | [] => .ok []
  | n :: ns => Graded.both (fun v vs => v :: vs) n.pairList (pairLists ns)

/-- A mapping of one pair, as a list of two. -/
def pairList : Node → Graded Value
  | .mapping _ [(k, v)] => Graded.both (fun a b => .list [a, b]) k.value v.value
  | .named n _ => n.pairList
  | _ => .refuse .malformed

/-- The pairs of a mapping: those that it merges, and then its own. -/
def allPairs (ps : List (Node × Node)) : Graded Pairs :=
  Graded.both (fun merged own => merged ++ own) (mergedPairs ps) (ownPairs ps)

/-- The pairs that a mapping merges. -/
def mergedPairs : List (Node × Node) → Graded Pairs
  | [] => .ok []
  | (k, v) :: ps =>
    if k.isMerge then Graded.both (fun a b => a ++ b) v.source (mergedPairs ps)
    else mergedPairs ps

/-- The pairs that a mapping states itself. -/
def ownPairs : List (Node × Node) → Graded Pairs
  | [] => .ok []
  | (k, v) :: ps =>
    if k.isMerge then ownPairs ps
    else
      let key := asKey (if k.isDefault then .ok (.text "=") else k.value)
      Graded.both (fun p qs => p :: qs) (Graded.both (fun a b => (a, b)) key v.value)
        (ownPairs ps)

/-- The pairs of a node to be merged: a mapping, or a list of mappings, the last one first. -/
def source : Node → Graded Pairs
  | .mapping _ ps => allPairs ps
  | .sequence _ ns => sources ns
  | .named n _ => n.source
  | .pending _ | .endless => .ok []
  | .scalar .. => .refuse .malformed

/-- The pairs of mappings to be merged, the last one first. -/
def sources : List Node → Graded Pairs
  | [] => .ok []
  | n :: ns => Graded.both (fun a b => b ++ a) n.listedSource (sources ns)

/-- The pairs of a mapping in a list of mappings to be merged. -/
def listedSource : Node → Graded Pairs
  | .mapping _ ps => allPairs ps
  | .named n _ => n.listedSource
  | .pending _ | .endless => .ok []
  | .scalar .. | .sequence .. => .refuse .malformed

end

/-! ## Cycles -/

mutual

/-- Whether a name satisfying a test is pending within a node. -/
def hasPending (ok : List Char → Bool) : Node → Bool
  | .pending a => ok a
  | .sequence _ ns => anyPending ok ns
  | .mapping _ ps => anyPairPending ok ps
  | .scalar .. | .named .. | .endless => false

/-- Whether a name satisfying a test is pending within a list. -/
def anyPending (ok : List Char → Bool) : List Node → Bool
  | [] => false
  | n :: ns => n.hasPending ok || anyPending ok ns

/-- Whether a name satisfying a test is pending within pairs. -/
def anyPairPending (ok : List Char → Bool) : List (Node × Node) → Bool
  | [] => false
  | (k, v) :: ps => k.hasPending ok || v.hasPending ok || anyPairPending ok ps

end

mutual

/-- A node with another one in the places where a name is pending. -/
def fill (name : List Char) (m : Node) : Node → Node
  | .pending a => if a == name then m else .pending a
  | .sequence t ns => .sequence t (fillAll name m ns)
  | .mapping t ps => .mapping t (fillPairs name m ps)
  | n => n

/-- Nodes with another one in the places where a name is pending. -/
def fillAll (name : List Char) (m : Node) : List Node → List Node
  | [] => []
  | n :: ns => fill name m n :: fillAll name m ns

/-- Pairs with another node in the places where a name is pending. -/
def fillPairs (name : List Char) (m : Node) : List (Node × Node) → List (Node × Node)
  | [] => []
  | (k, v) :: ps => (fill name m k, fill name m v) :: fillPairs name m ps

end

/-- How often a node is written out within itself. -/
def turns : Nat := 3

/-- A complete node in the places where its name is pending. -/
def tie (name : List Char) (n : Node) : Node :=
  if n.hasPending (· == name) then Nat.repeat (fun m => fill name m n) (turns + 1) .endless
  else n

/-- A node under a name, with its value if it is a collection in which nothing is pending. -/
def name (a : List Char) (n : Node) : Node :=
  match n.tie a with
  | .sequence t ns =>
    let m := Node.sequence t ns
    if m.hasPending fun _ => true then m else .named m m.value
  | .mapping t ps =>
    let m := Node.mapping t ps
    if m.hasPending fun _ => true then m else .named m m.value
  | m => m

end Node

end Muster.Document.Yaml
