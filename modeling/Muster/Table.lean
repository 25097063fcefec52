/-
  Tables: pairs of a key and a value, in the order in which the keys first came.

  Putting a value under a key that is already there replaces the value and keeps the place; a new
  key goes last.  Looking up is `List.lookup`, and a table built by `put` holds each key once.
-/

namespace Muster.Table

/-- Puts a value under a key. -/
def put {κ α : Type} [BEq κ] (k : κ) (a : α) : List (κ × α) → List (κ × α)
  | [] => [(k, a)]
  | p :: ps => if p.1 == k then (k, a) :: ps else p :: put k a ps

/-- The table of pairs put in one after the other. -/
def ofPairs {κ α : Type} [BEq κ] (ps : List (κ × α)) : List (κ × α) :=
  ps.foldl (fun t p => put p.1 p.2 t) []

end Muster.Table
