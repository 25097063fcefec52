/-
  Option lines and what is read from them.

  A datasheet lists its options as free text, one line each.  A sentence that no rule reads is
  kept, with `unknown` on the axis that is missing, and reported rather than refused; all that a
  line is refused for is a numeral too long to be read.  A line counts as READ when both axes are
  known, and also when it says "None" or is a footnote, for then there is nothing to know.
-/
import Muster.Wargear.Targeting
import Muster.Wargear.Action
import Muster.Wargear.Constraint

namespace Muster.Wargear

open Text

/-- One option line of a datasheet. -/
structure OptionLine where
  datasheetId : String
  line : Int
  button : String
  description : String
deriving Repr, DecidableEq

/-- The structured reading of an option line. -/
structure ParsedOption where
  line : Int
  rawText : String
  wargearParsed : Bool
  targeting : Targeting
  action : Action
  constraints : Constraints
deriving Repr, DecidableEq

/-- Both axes are known, so the option can change loadouts. -/
def ParsedOption.isActionable (o : ParsedOption) : Bool := o.targeting.isKnown && o.action.isKnown

/-- The text says that there are no options. -/
def saysNone (s : List Char) : Bool :=
  let w := lower (trim s)
  w == "none".toList || w == "none.".toList

/-- The text is a footnote. -/
def isFootnote (s : List Char) : Bool := begins ['*'] (trim s)

/-- Reads one option sentence that stands on a given line. -/
def parse (text : String) (line : Int) : Except LongNumeral ParsedOption := do
  let s := sentence text.toList
  let targeting ← classify .unknown s targetingRules
  let action ← classify .unknown s actionRules
  let constraints ← readConstraints s
  return {
    line := line
    rawText := text
    wargearParsed := (targeting.isKnown && action.isKnown) || saysNone s || isFootnote s
    targeting := targeting
    action := action
    constraints := constraints }

/-- Puts a line behind all lines with the same or a smaller number. -/
def insertLine (o : OptionLine) : List OptionLine → List OptionLine
  | [] => [o]
  | p :: ps => if o.line < p.line then o :: p :: ps else p :: insertLine o ps

/-- Option lines by line number, those of one number in the order given. -/
def inLineOrder (os : List OptionLine) : List OptionLine :=
  os.foldl (fun acc o => insertLine o acc) []

/-- Reads the options of a datasheet in line order. -/
def parseOptions (os : List OptionLine) : Except LongNumeral (List ParsedOption) :=
  (inLineOrder os).mapM fun o => parse o.description o.line

/-- A report line for each option that was not read. -/
def describeUnparsed (os : List ParsedOption) : List String :=
  (os.filter (!·.wargearParsed)).map fun o =>
    "line " ++ String.ofList (signed o.line) ++ ": " ++ String.ofList (trim o.rawText.toList)

end Muster.Wargear
