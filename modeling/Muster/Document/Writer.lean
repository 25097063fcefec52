/-
  Writing numbers, texts and lists as document values; the other direction of `Document/Reader`.
-/
import Muster.Document.Reader

namespace Muster.Document.Value

/-- A value or `null`. -/
def ofOption {α : Type} (f : α → Value) : Option α → Value
  | none => .null
  | some a => f a

/-- A list of values. -/
def ofList {α : Type} (f : α → Value) (as : List α) : Value := .list (as.map f)

/-- A list of texts. -/
def texts (ss : List String) : Value := ofList .text ss

/-- A list of integers. -/
def ints (ns : List Int) : Value := ofList .int ns

/-- An integer or a text. -/
def ofIntegerOrText : IntegerOrText → Value
  | .integer n => .int n
  | .text s => .text s

/-- The text of a member in a table of names. -/
def named {α : Type} [BEq α] (table : List (String × α)) (a : α) : Value :=
  match table.find? fun p => p.2 == a with
  | some p => .text p.1
  | none => .null

end Muster.Document.Value
