/-
  Rosters: the model types of a unit and what each starts with.

  (1) A roster line such as "4-9 Terminators" names the model type "Terminator": the size before it
      and a plural `s` are taken off.
  (2) The default-loadout text states, sentence by sentence, what a model is equipped with.  When no
      sentence names a model, the list belongs to the first model type of the roster.
  (3) A model type takes the FIRST stated default whose name matches its own: equal up to case and a
      plural `s`, or one name within the other; if none matches, the first of all.
-/
import Muster.Wargear.Datasheet

namespace Muster.Wargear

open Text

/-- The model type that stands for every model of a unit. -/
def anyModel : String := "any"

/-- The items that one model type starts with. -/
structure DefaultLoadout where
  modelType : String
  items : List String
deriving Repr, DecidableEq

/-! ## Model types -/

/-- The size before a model name, e.g. "4-9 ". -/
def rosterSize : Pattern :=
  .longest isDecimal ++ .many (fun c => c == '-' || isBlank c) true ++ .many isDecimal true
    ++ .blanks

/-- A text without the `s` that ends it. -/
def dropPlural (s : List Char) : List Char := if s.getLast? == some 's' then s.dropLast else s

/-- The model type that a roster line names. -/
def modelTypeOf (description : List Char) : List Char :=
  trim (dropPlural (trim (rosterSize.dropStart description)))

/-- The model type of a roster entry, whose description may hold markup. -/
def RosterEntry.modelType (e : RosterEntry) : String :=
  String.ofList (modelTypeOf (dropMarkup e.description.toList))

/-- The items of a list that differ from all before them, added to those already kept. -/
def firstsInto {α : Type} [BEq α] (kept : List α) : List α → List α
  | [] => kept
  | a :: as => firstsInto (if kept.contains a then kept else kept ++ [a]) as

/-- The distinct model types of a roster, in order; any model if there is no roster. -/
def modelTypes (roster : List RosterEntry) : List String :=
  if roster.isEmpty then [anyModel] else firstsInto [] (roster.map RosterEntry.modelType)

/-- Equality of name keys up to a plural `s` on either side. -/
def sameKey (a b : List Char) : Bool := a == b || a == b ++ ['s'] || a ++ ['s'] == b

/-- Equality of model types up to case, blanks around them and a plural `s`. -/
def sameModelType (a b : List Char) : Bool := sameKey (nameKey a) (nameKey b)

/-! ## Default loadouts -/

/-- "The Sergeant is equipped with:" and a list up to the full stop, as groups 1 and 2. -/
def modelDefault : Pattern :=
  .opt (.text "the" ++ .gap <|> .text "every" ++ .gap)
    ++ .group 1 (.one isWordChar ++ .shortest Pattern.inName) ++ .gap
    ++ .opt (.text "model" ++ .gap) ++ .text "is equipped with:" ++ .blanks
    ++ .group 2 (.longest (· != '.'))

/-- "equipped with:" and a list up to the full stop, as group 1. -/
def bareDefault : Pattern :=
  .text "equipped with:" ++ .blanks ++ .group 1 (.longest (· != '.'))

/-- A count before an item. -/
def itemCount : Pattern := .longest isDecimal ++ .gap

/-- The items of a list between commas or semicolons, without their counts. -/
def listedItems (s : List Char) : List (List Char) :=
  ((splitWhere (fun c => c == ';' || c == ',') s).map fun p => itemCount.dropStart (trim p)).filter
    (!·.isEmpty)

/-- A stated default, if it lists anything. -/
def statedDefault (modelType list : List Char) : Option DefaultLoadout :=
  let items := listedItems list
  if items.isEmpty then none else some ⟨String.ofList modelType, items.map String.ofList⟩

/-- The model type of the first roster line, or any model. -/
def firstModelType (roster : List RosterEntry) : String :=
  match roster with
  | [] => anyModel
  | e :: _ => e.modelType

/-- The defaults that a text states, in order. -/
def parseDefaultLoadout (text : String) (roster : List RosterEntry) : List DefaultLoadout :=
  let plain := dropMarkup text.toList
  let named := (modelDefault.findAll plain).filterMap fun m =>
    statedDefault (trim (m.group 1)) (m.group 2)
  if !named.isEmpty then named
  else match bareDefault.find plain with
    | none => []
    | some m => (statedDefault (firstModelType roster).toList (m.group 1)).toList

/-- Whether a stated default is meant for a model type. -/
def DefaultLoadout.suits (d : DefaultLoadout) (modelType : String) : Bool :=
  let wanted := lower modelType.toList
  let listed := lower d.modelType.toList
  sameModelType listed wanted || occurs listed wanted || occurs wanted listed

/-- The default that a model type takes. -/
def defaultFor (modelType : String) (ds : List DefaultLoadout) : Option DefaultLoadout :=
  match ds.find? fun d => d.suits modelType with
  | some d => some d
  | none => ds.head?

end Muster.Wargear
