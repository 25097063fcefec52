/-
  Templates: mechanics with a place for a parameter.

  The text `{parameter}` is the PLACEHOLDER.  Substitution puts the parameter in its place where it
  is the `value` of a template, and in the templates that a template holds in turn, as its
  `mechanics`; everything else stays as it is.  Where a nested template should stand, anything but
  an object is an error, for there is nothing to substitute in.

  A parameter is a number if it is one, with or without a plus behind it ("5+" is 5), and a text
  such as "D3" otherwise.  A number too long to be read is an error.

  A template is searched and copied by calls within calls, of which no more than 1000 can be open:
    (1) a search opens three for each list or object around the value that it is at
        (`deepestSearch`);
    (2) a copy opens two for each, and two at the end (`deepestCopy`).
  The bounds are those of a registry that is built, and of mechanics that are collected, by the
  outermost call; further calls around these leave less.  A value does not know where it is shared:
  at each place it counts as if it stood there alone.
-/
import Muster.Document.Reader
import Muster.Text.Pattern

namespace Muster.Combat

open Text Document

/-- The text that stands for a parameter. -/
def placeholder : String := "\x7bparameter\x7d"

/-- Why a parameter cannot be put into a template. -/
inductive TemplateError where
  /-- The parameter is a number too long to be read. -/
  | longParameter (e : LongNumeral)
  /-- A nested template is no object. -/
  | notAnObject
  /-- A template holds too many lists and objects, one within the other, to be copied, or it is
      found among its own mechanics. -/
  | tooDeep
deriving Repr, DecidableEq

/-! ## Parameters -/

/-- A numeral, perhaps with a plus behind it: group 1. -/
def plusNumeral : Pattern :=
  .group 1 (.longest isDecimal) ++ .opt (.char '+') ++ .textEnd

/-- The value of a parameter that is written as a text. -/
def parameterValue (s : String) : Except LongNumeral IntegerOrText :=
  let t := trim s.toList
  match plusNumeral.matchStart t with
  | some m => do
    let n ← readNumeral (m.group 1)
    return .integer n
  | none => .ok (.text (String.ofList t))

/-- The value of a number or text that a mechanic carries. -/
def asParameter : IntegerOrText → Except LongNumeral IntegerOrText
  | .integer n => .ok (.integer n)
  | .text s => parameterValue s

/-- The value that takes the place of the placeholder. -/
def substituteFor : Value → Except LongNumeral Value
  | .text s => do
    match ← parameterValue s with
    | .integer n => return .int n
    | .text t => return .text t
  | v => .ok v

/-! ## Substitution -/

/-- Whether a value is the placeholder itself. -/
def isPlaceholder : Value → Bool
  | .text s => s == placeholder
  | _ => false

mutual

/-- Whether the placeholder occurs among the values within a value. -/
def hasPlaceholder : Value → Bool
  | .list vs => anyPlaceholder vs
  | .object fs => anyFieldPlaceholder fs
  | v => isPlaceholder v

/-- Whether the placeholder occurs in a list. -/
def anyPlaceholder : List Value → Bool
  | [] => false
  | v :: vs => hasPlaceholder v || anyPlaceholder vs

/-- Whether the placeholder occurs in a field. -/
def anyFieldPlaceholder : List (Key × Value) → Bool
  | [] => false
  | (_, v) :: fs => hasPlaceholder v || anyFieldPlaceholder fs

end

/-- A search for the placeholder fails at a value with this many lists and objects around it. -/
def deepestSearch : Nat := 332

mutual

/-- Whether a search for the placeholder within a value fails: it comes to an endless value, or to
    one that is `deep` lists and objects deeper, before it finds a placeholder. -/
def searchFails (deep : Nat) : Value → Bool
  | .endless => true
  | .list vs => deep == 0 || anySearchFails (deep - 1) vs
  | .object fs => deep == 0 || anyFieldSearchFails (deep - 1) fs
  | _ => deep == 0

/-- Whether a search in a list fails. -/
def anySearchFails (deep : Nat) : List Value → Bool
  | [] => false
  | v :: vs => searchFails deep v || (!hasPlaceholder v && anySearchFails deep vs)

/-- Whether a search in the fields of an object fails. -/
def anyFieldSearchFails (deep : Nat) : List (Key × Value) → Bool
  | [] => false
  | (_, v) :: fs => searchFails deep v || (!hasPlaceholder v && anyFieldSearchFails deep fs)

end

/-- The most lists and objects, one within the other, that a template is copied with. -/
def deepestCopy : Nat := 496

mutual

/-- A template with a value in place of the placeholder; it is copied first. -/
def substitute (x : Value) : Value → Except TemplateError Value
  | .object fs =>
    if deepestCopy < (Value.object fs).nesting then .error .tooDeep
    else (substituteFields x fs).map .object
  | .endless => .error .tooDeep
  | _ => .error .notAnObject

/-- The fields of a template with a value in place of the placeholder. -/
def substituteFields (x : Value) : List (Key × Value) → Except TemplateError (List (Key × Value))
  | [] => .ok []
  | (k, v) :: fs => do
    let w ← if k == .text "mechanics" then substituteNested x v
      else .ok (if k == .text "value" && isPlaceholder v then x else v)
    let gs ← substituteFields x fs
    return (k, w) :: gs

/-- The templates within a template; what is no list stays as it is. -/
def substituteNested (x : Value) : Value → Except TemplateError Value
  | .list vs => (substituteAll x vs).map .list
  | v => .ok v

/-- A list of templates with a value in place of the placeholder. -/
def substituteAll (x : Value) : List Value → Except TemplateError (List Value)
  | [] => .ok []
  | v :: vs => do
    let w ← substitute x v
    let ws ← substituteAll x vs
    return w :: ws

end

end Muster.Combat
