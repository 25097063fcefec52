/-
  Conditions: tests against the situation of a combat.

  A situation holds, for each combatant, what can be observed: states, keywords, abilities and
  characteristics.  A condition names an ENTITY seen from the owner of the mechanic ("this unit" is
  the owner's, "target unit" the other's) and tests the first of these that it mentions: a state,
  any of some keywords, any of some abilities, or a characteristic.  One that mentions none always
  holds.

  **Comparing.**  Equality is that of document values (`Value.same`).  The four orders hold only
  between two numbers, and a truth value is no number here.  "Includes" is membership in a list,
  being part of a text, or else equality.  Of an absent value only equality with an absent one
  holds.
-/
import Muster.Combat.Roll
import Muster.Document.Writer
import Muster.Text.Cut

namespace Muster.Combat

open Text Document

/-! ## Entities -/

/-- Whom a condition or a mechanic speaks of. -/
inductive Entity where
  | thisArmy
  | thisUnit
  | thisModel
  | opponentArmy
  | opposingUnit
  | opposingModel
  | targetUnit
  | targetModel
deriving Repr, DecidableEq

/-- Whether an entity belongs to the owner's side. -/
def Entity.isOwn : Entity → Bool
  | thisArmy | thisUnit | thisModel => true
  | _ => false

/-- The names of the entities. -/
def entityNames : List (String × Entity) := [
  ("thisArmy", .thisArmy), ("thisUnit", .thisUnit), ("thisModel", .thisModel),
  ("opponentArmy", .opponentArmy), ("opposingUnit", .opposingUnit),
  ("opposingModel", .opposingModel), ("targetUnit", .targetUnit), ("targetModel", .targetModel)]

/-- The name of an entity. -/
def Entity.name : Entity → String
  | thisArmy => "thisArmy"
  | thisUnit => "thisUnit"
  | thisModel => "thisModel"
  | opponentArmy => "opponentArmy"
  | opposingUnit => "opposingUnit"
  | opposingModel => "opposingModel"
  | targetUnit => "targetUnit"
  | targetModel => "targetModel"

/-! ## Operators -/

/-- How an observed value is compared with an expected one. -/
inductive Operator where
  | equals
  | notEquals
  | greaterThan
  | greaterThanOrEqualTo
  | lessThan
  | lessThanOrEqualTo
  | includes
  | notIncludes
deriving Repr, DecidableEq

/-- The name of an operator. -/
def Operator.name : Operator → String
  | equals => "equals"
  | notEquals => "notEquals"
  | greaterThan => "greaterThan"
  | greaterThanOrEqualTo => "greaterThanOrEqualTo"
  | lessThan => "lessThan"
  | lessThanOrEqualTo => "lessThanOrEqualTo"
  | includes => "includes"
  | notIncludes => "notIncludes"

/-- The names of the operators. -/
def operatorNames : List (String × Operator) :=
  [Operator.equals, .notEquals, .greaterThan, .greaterThanOrEqualTo, .lessThan, .lessThanOrEqualTo,
    .includes, .notIncludes].map fun o => (o.name, o)

/-- How two values compare if both are numbers and neither is a truth value. -/
def orderOf (a b : Value) : Option Ordering :=
  match a, b with
  | .bool _, _ => none
  | _, .bool _ => none
  | _, _ =>
    match a.number?, b.number? with
    | some m, some n => Value.compareNumbers m n
    | _, _ => none

/-- Whether an observed value includes an expected one. -/
def includesValue (actual expected : Value) : Bool :=
  match actual, expected with
  | .list vs, _ => vs.any fun v => v.same expected
  | .text s, .text t => occurs t.toList s.toList
  | _, _ => actual.same expected

/-- Whether a value is absent. -/
def isAbsent : Value → Bool
  | .null => true
  | _ => false

/-- Whether an observed value compares with an expected one as an operator asks. -/
def compareValues (actual : Value) (op : Operator) (expected : Value) : Bool :=
  if isAbsent actual then
    match op with
    | .equals => isAbsent expected
    | .notEquals => !isAbsent expected
    | _ => false
  else
    match op with
    | .equals => actual.same expected
    | .notEquals => !actual.same expected
    | .greaterThan => orderOf actual expected == some .gt
    | .greaterThanOrEqualTo => [some .gt, some .eq].contains (orderOf actual expected)
    | .lessThan => orderOf actual expected == some .lt
    | .lessThanOrEqualTo => [some .lt, some .eq].contains (orderOf actual expected)
    | .includes => includesValue actual expected
    | .notIncludes => !includesValue actual expected

/-- The comparison by an operator's name; a name of no operator holds of nothing. -/
def compareByName (actual : Value) (op : String) (expected : Value) : Bool :=
  match operatorNames.lookup op with
  | some o => compareValues actual o expected
  | none => false

/-! ## Situations -/

/-- What can be observed of one combatant. -/
structure Facts where
  states : List String
  keywords : List String
  abilities : List String
  characteristics : List (Key × Value)

/-- Nothing observed. -/
def Facts.none : Facts := ⟨[], [], [], []⟩

/-- The situation of a combat. -/
structure Situation where
  attacker : Facts
  defender : Facts

/-- Whether a combatant is in a state, case ignored. -/
def Facts.hasState (f : Facts) (s : String) : Bool :=
  f.states.any fun t => lower t.toList == lower s.toList

/-- Whether two lists share a text, case ignored. -/
def shareText (own wanted : List String) : Bool :=
  wanted.any fun w => own.any fun o => upper o.toList == upper w.toList

/-- The value of a characteristic, absent if it is not observed. -/
def Facts.characteristic (f : Facts) (name : String) : Value :=
  (f.characteristics.lookup (.text name)).getD .null

/-- The combatant that an entity speaks of, seen from a side. -/
def Entity.side (e : Entity) (owner : Side) : Side := if e.isOwn then owner else owner.other

/-- What can be observed of a side. -/
def Situation.facts (s : Situation) : Side → Facts
  | .attacker => s.attacker
  | .defender => s.defender

/-! ## Conditions -/

/-- The value that a condition expects. -/
inductive Expected where
  | absent
  | flag (b : Bool)
  | number (n : Int)
  | text (s : String)
  | texts (ss : List String)
deriving Repr, DecidableEq

/-- An expected value as a document value. -/
def Expected.toValue : Expected → Value
  | absent => .null
  | flag b => .bool b
  | number n => .int n
  | text s => .text s
  | texts ss => .texts ss

/-- An expected value in words. -/
def Expected.display : Expected → List Char
  | absent => "None".toList
  | flag b => showBool b
  | number n => signed n
  | text s => s.toList
  | texts ss => showTexts ss

/-- A test against the situation. -/
structure Condition where
  entity : Entity
  state : Option String
  characteristic : Option String
  keywords : List String
  abilities : List String
  operator : Operator
  value : Expected
deriving Repr, DecidableEq

/-- A text that is given and not empty. -/
def stated (s : Option String) : Option String := s.filter (!·.isEmpty)

/-- What a condition tests: the first of its checks that it states. -/
inductive Check where
  | state (s : String)
  | keywords (ks : List String)
  | abilities (as : List String)
  | characteristic (a : String)
  | nothing
deriving Repr, DecidableEq

/-- The check that a condition makes. -/
def Condition.check (c : Condition) : Check :=
  match stated c.state with
  | some s => .state s
  | none =>
    if !c.keywords.isEmpty then .keywords c.keywords
    else if !c.abilities.isEmpty then .abilities c.abilities
    else match stated c.characteristic with
      | some a => .characteristic a
      | none => .nothing

/-- What an operator makes of finding something. -/
def presence (found : Bool) (op : Operator) : Bool :=
  match op with
  | .notEquals | .notIncludes => !found
  | _ => found

/-- Whether a condition holds for a mechanic of a side. -/
def Condition.holds (c : Condition) (s : Situation) (owner : Side) : Bool :=
  let facts := s.facts (c.entity.side owner)
  match c.check with
  | .state name => compareValues (.bool (facts.hasState name)) c.operator c.value.toValue
  | .keywords ks => presence (shareText facts.keywords ks) c.operator
  | .abilities as => presence (shareText facts.abilities as) c.operator
  | .characteristic a => compareValues (facts.characteristic a) c.operator c.value.toValue
  | .nothing => true

/-- A condition in words. -/
def Condition.describe (c : Condition) : String :=
  let entity := c.entity.name
  let op := c.operator.name
  let value := String.ofList c.value.display
  match c.check with
  | .state s => entity ++ " " ++ op ++ " state " ++ s ++ "=" ++ value
  | .keywords ks => entity ++ " " ++ op ++ " keywords " ++ ", ".intercalate ks
  | .abilities as => entity ++ " " ++ op ++ " abilities " ++ ", ".intercalate as
  | .characteristic a => entity ++ " " ++ a ++ " " ++ op ++ " " ++ value
  | .nothing => entity ++ " (no check)"

/-- Whether all conditions hold. -/
def allHold (cs : List Condition) (s : Situation) (owner : Side) : Bool :=
  cs.all fun c => c.holds s owner

/-- The first condition from a number on that fails, in words. -/
def firstFailure (s : Situation) (owner : Side) : Nat → List Condition → Bool × String
  | _, [] => (true, "All conditions met")
  | n, c :: cs =>
    if c.holds s owner then firstFailure s owner (n + 1) cs
    else (false, "Condition " ++ String.ofList (numeral n) ++ " failed: " ++ c.describe)

/-- Whether conditions hold, and why or why not. -/
def explain (cs : List Condition) (s : Situation) (owner : Side) : Bool × String :=
  if cs.isEmpty then (true, "No conditions") else firstFailure s owner 1 cs

/-! ## Records -/

/-- An expected value from a document value: one that has a kind keeps it, and a double counts as a
    truth value if it is 0 or 1 and as an integer if it is another. -/
def Expected.read : Reader Expected := fun v =>
  match v with
  | .null => .ok .absent
  | .bool b => .ok (.flag b)
  | .int n => .ok (.number n)
  | .text s => .ok (.text s)
  | _ =>
    let flag := boolean v
    let number := integer v
    let text := Document.text v
    let texts := listOf Document.text v
    match flag, number, text, texts with
    | .ok b, _, _, _ => .ok (.flag b)
    | .bad _, .ok n, _, _ => .ok (.number n)
    | .bad _, .bad _, .ok s, _ => .ok (.text s)
    | .bad _, .bad _, .bad _, .ok ss => .ok (.texts ss)
    | .bad ps, .bad qs, .bad rs, .bad ts =>
      (fun _ _ _ e => e) <$> (Checked.bad ps : Checked Unit).within "bool"
        <*> (Checked.bad qs : Checked Unit).within "int"
        <*> (Checked.bad rs : Checked Unit).within "str"
        <*> (Checked.bad ts : Checked Expected).within "list[str]"

/-- A condition from a document value. -/
def Condition.read : Reader Condition := record fun v =>
  Condition.mk
    <$> optional v "entity" .thisUnit (oneOf entityNames .literalError)
    <*> optional v "state" none (nullable text)
    <*> optional v "attribute" none (nullable text)
    <*> optional v "keywords" [] (listOf text)
    <*> optional v "abilities" [] (listOf text)
    <*> optional v "operator" .equals (oneOf operatorNames .literalError)
    <*> optional v "value" (.flag true) Expected.read

/-- A condition as a document value. -/
def Condition.toValue (c : Condition) : Value := .ofFields [
  ("entity", .text c.entity.name), ("state", .ofOption .text c.state),
  ("attribute", .ofOption .text c.characteristic), ("keywords", .texts c.keywords),
  ("abilities", .texts c.abilities), ("operator", .text c.operator.name),
  ("value", c.value.toValue)]

/-- The fields of an object, whatever they hold. -/
def fieldsOf : Reader (List (Key × Value))
  | .object fs => .ok fs
  | _ => .refuse .dictType

/-- Facts from a document value. -/
def Facts.read : Reader Facts := record fun v =>
  Facts.mk
    <$> optional v "states" [] (listOf text)
    <*> optional v "keywords" [] (listOf text)
    <*> optional v "abilities" [] (listOf text)
    <*> optional v "attributes" [] fieldsOf

/-- Facts as a document value. -/
def Facts.toValue (f : Facts) : Value := .ofFields [
  ("states", .texts f.states), ("keywords", .texts f.keywords), ("abilities", .texts f.abilities),
  ("attributes", .object f.characteristics)]

/-- A situation from a document value. -/
def Situation.read : Reader Situation := record fun v =>
  Situation.mk <$> optional v "attacker" .none Facts.read <*> optional v "defender" .none Facts.read

/-- A situation as a document value. -/
def Situation.toValue (s : Situation) : Value := .ofFields [
  ("attacker", s.attacker.toValue), ("defender", s.defender.toValue)]

end Muster.Combat
