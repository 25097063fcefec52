/-
  What can be wrong with a document value, and where.

  A record is read in one pass that reports EVERY problem, in the order in which its fields are
  declared, not only the first.  A problem is a cause and the path to the offending value; the path
  grows as the reading returns, so a reader need not know where it is used.

  **`Checked`** is the result of such a reading.  It combines in parallel: the problems of two parts
  are those of the first followed by those of the second, and there is a value only if both have
  one.
-/

namespace Muster.Document

/-- Why a value is refused. -/
inductive Cause where
  /-- A field without default is absent. -/
  | missing
  /-- A text that is no integer numeral. -/
  | intParsing
  /-- A numeral or a double too large to be an integer here. -/
  | intParsingSize
  /-- A double with a fraction. -/
  | intFromFloat
  /-- A double that is no number, or infinite. -/
  | finiteNumber
  | intType
  | stringType
  /-- Bytes that are no text. -/
  | stringUnicode
  /-- A text or a number that is no truth value. -/
  | boolParsing
  | boolType
  | listType
  | tupleType
  /-- A list with more items than it may have. -/
  | tooLong
  | dictType
  /-- A record that is no object. -/
  | modelType
  /-- A tagged record that is no object. -/
  | modelAttributesType
  /-- A text that is not among those listed. -/
  | literalError
  /-- A value that names no member. -/
  | enum
  /-- A tag that names no variant. -/
  | unionTagInvalid
  /-- A tagged record without tag. -/
  | unionTagNotFound
  | greaterThanEqual
  | lessThanEqual
  /-- A check beyond types and ranges failed, with its own wording. -/
  | valueError (text : String)
deriving Repr, DecidableEq

/-- The name of a cause in messages. -/
def Cause.name : Cause → String
  | missing => "missing"
  | intParsing => "int_parsing"
  | intParsingSize => "int_parsing_size"
  | intFromFloat => "int_from_float"
  | finiteNumber => "finite_number"
  | intType => "int_type"
  | stringType => "string_type"
  | stringUnicode => "string_unicode"
  | boolParsing => "bool_parsing"
  | boolType => "bool_type"
  | listType => "list_type"
  | tupleType => "tuple_type"
  | tooLong => "too_long"
  | dictType => "dict_type"
  | modelType => "model_type"
  | modelAttributesType => "model_attributes_type"
  | literalError => "literal_error"
  | enum => "enum"
  | unionTagInvalid => "union_tag_invalid"
  | unionTagNotFound => "union_tag_not_found"
  | greaterThanEqual => "greater_than_equal"
  | lessThanEqual => "less_than_equal"
  | valueError text => "value_error: Value error, " ++ text

/-- A problem at a path; the path is empty for the value itself. -/
structure Problem where
  path : List String
  cause : Cause
deriving Repr, DecidableEq

/-- A problem in words. -/
def Problem.message (p : Problem) : String := ".".intercalate p.path ++ ": " ++ p.cause.name

/-- Problems in words, in order. -/
def problemsMessage (ps : List Problem) : String := "; ".intercalate (ps.map Problem.message)

/-- The result of a reading: a value, or the problems found. -/
inductive Checked (α : Type) where
  | ok (a : α)
  | bad (problems : List Problem)

namespace Checked

/-- Both parts, or the problems of the first and then of the second. -/
protected def both {α β : Type} (f : Checked (α → β)) (x : Unit → Checked α) : Checked β :=
  match f, x () with
  | ok g, ok a => ok (g a)
  | ok _, bad qs => bad qs
  | bad ps, ok _ => bad ps
  | bad ps, bad qs => bad (ps ++ qs)

instance : Applicative Checked where
  pure := ok
  seq := Checked.both

/-- Goes on with the value, if there is one. -/
def andThen {α β : Type} (x : Checked α) (f : α → Checked β) : Checked β :=
  match x with
  | ok a => f a
  | bad ps => bad ps

/-- The value itself is refused. -/
def refuse {α : Type} (c : Cause) : Checked α := bad [⟨[], c⟩]

/-- The reading of a part, whose problems lie below it. -/
def within {α : Type} (part : String) : Checked α → Checked α
  | ok a => ok a
  | bad ps => bad (ps.map fun p => { p with path := part :: p.path })

/-- The value, or the problems as an error. -/
def toExcept {α : Type} : Checked α → Except (List Problem) α
  | ok a => .ok a
  | bad ps => .error ps

end Checked

end Muster.Document
