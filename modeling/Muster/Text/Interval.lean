/-
  Sets of characters given as closed intervals of code points.
-/

namespace Muster.Text

/-- Whether some interval of the table holds the character. -/
def inIntervals (table : List (Nat × Nat)) (c : Char) : Bool :=
  table.any fun r => r.1 ≤ c.toNat && c.toNat ≤ r.2

end Muster.Text
