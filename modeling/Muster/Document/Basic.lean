/-
  Document values: what a data file holds, whichever notation it is written in.

  The fields of an object keep the order in which they were written, for that order shows in answers
  (the names of a registry).  Some things exist in one notation only and have a place of their own:
    (1) a KEY that is no text, such as a number before a colon;
    (2) a FOREIGN scalar, such as a date, which is neither a number nor a text;
    (3) BYTES, which count as a text where they are one in UTF-8;
    (4) an ENDLESS value, which stands where a value is found within itself.

  **`Value.same`** is equality as rules mean it: a truth value equals the number 0 or 1, an integer
  equals the double of the same value, and the order of an object's fields does not matter.
-/
import Muster.Number.Double

namespace Muster.Document

/-- The key of an object's field. -/
inductive Key where
  | text (s : String)
  /-- A key that is no text, by how it would be written. -/
  | other (shown : String)
deriving Repr, DecidableEq

/-- A value of a document. -/
inductive Value where
  | null
  | bool (b : Bool)
  | int (n : Int)
  | double (x : Double)
  | text (s : String)
  | list (items : List Value)
  | object (fields : List (Key × Value))
  /-- A scalar of a kind that has no other place, by how it would be written. -/
  | foreign (shown : String)
  | bytes (bs : List UInt8)
  /-- A value within itself, where it is not written out any further. -/
  | endless

namespace Value

/-- An object with text keys. -/
def ofFields (fs : List (String × Value)) : Value := .object (fs.map fun f => (.text f.1, f.2))

/-- The value of a field of an object. -/
def field? (name : String) : Value → Option Value
  | .object fs => fs.lookup (.text name)
  | _ => none

/-- The text of bytes in UTF-8. -/
def textOfBytes? (bs : List UInt8) : Option String := String.fromUTF8? ⟨bs.toArray⟩

/-! ## Nesting -/

mutual

/-- How many lists and objects stand one within the other in a value. -/
def nesting : Value → Nat
  | .list vs => nestingOfItems vs + 1
  | .object fs => nestingOfFields fs + 1
  | _ => 0

/-- The most that stand one within the other in an item of a list. -/
def nestingOfItems : List Value → Nat
  | [] => 0
  | v :: vs => max (nesting v) (nestingOfItems vs)

/-- The most that stand one within the other in a field of an object. -/
def nestingOfFields : List (Key × Value) → Nat
  | [] => 0
  | (_, v) :: fs => max (nesting v) (nestingOfFields fs)

end

/-! ## Equality -/

/-- The number that a value stands for: a truth value counts as 0 or 1. -/
def number? : Value → Option (Int ⊕ Double)
  | .bool b => some (.inl b.toInt)
  | .int n => some (.inl n)
  | .double x => some (.inr x)
  | _ => none

/-- How two numbers compare. -/
def compareNumbers : Int ⊕ Double → Int ⊕ Double → Option Ordering
  | .inl m, .inl n => some (compare m n)
  | .inr x, .inl n => x.compareRational n 1
  | .inl m, .inr y => (y.compareRational m 1).map Ordering.swap
  | .inr x, .inr y => x.compare? y

/-- Equality of values that hold no others. -/
def sameScalar : Value → Value → Bool
  | .null, .null => true
  | .text s, .text t => s == t
  | .foreign s, .foreign t => s == t
  | .bytes bs, .bytes cs => bs == cs
  | v, w =>
    match v.number?, w.number? with
    | some m, some n => compareNumbers m n == some .eq
    | _, _ => false

mutual

/-- Equality as rules mean it. -/
def same : Value → Value → Bool
  | .list vs, .list ws => sameItems vs ws
  | .object fs, .object gs => fs.length == gs.length && sameFields fs gs
  | v, w => sameScalar v w

/-- Lists of equal values. -/
def sameItems : List Value → List Value → Bool
  | [], [] => true
  | v :: vs, w :: ws => same v w && sameItems vs ws
  | _, _ => false

/-- Each field of the first list has an equal value in the second. -/
def sameFields : List (Key × Value) → List (Key × Value) → Bool
  | [], _ => true
  | (k, v) :: fs, gs =>
    (match gs.lookup k with
     | some w => same v w
     | none => false) && sameFields fs gs

end

end Value

end Muster.Document
