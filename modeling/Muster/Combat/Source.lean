/-
  Sources: where a mechanic comes from.

  Every mechanic that takes part in a resolution is shown with its source: the kind of thing that
  brought it (an ability, a weapon, a stratagem, …) and its name.  The kinds have a PRIORITY for
  display; a lower number stands first.
-/
import Muster.Document.Writer

namespace Muster.Combat

open Document

/-- What kind of thing brings a mechanic. -/
inductive SourceType where
  | core
  | faction
  | detachment
  | unit
  | leader
  | enhancement
  | weapon
  | stratagem
  | situational
deriving Repr, DecidableEq

/-- Where a mechanic comes from. -/
structure Source where
  type : SourceType
  name : String
  unitName : Option String
  /-- The text of the weapon rule, for weapons. -/
  rule : Option String
deriving Repr, DecidableEq

/-- A source of which only the kind and the name are known. -/
def Source.named (type : SourceType) (name : String) : Source := ⟨type, name, none, none⟩

/-- The source of a mechanic that states none. -/
def Source.unstated : Source := .named .situational "Unknown"

/-- The place of a kind of source in a display. -/
def SourceType.priority : SourceType → Int
  | core => 0
  | faction => 10
  | detachment => 20
  | unit => 30
  | leader => 40
  | enhancement => 50
  | weapon => 60
  | stratagem => 100
  | situational => 110

/-- The names of the kinds of sources. -/
def sourceTypes : List (String × SourceType) := [
  ("core", .core), ("faction", .faction), ("detachment", .detachment), ("unit", .unit),
  ("leader", .leader), ("enhancement", .enhancement), ("weapon", .weapon),
  ("stratagem", .stratagem), ("situational", .situational)]

/-- A source from a document value. -/
def Source.read : Reader Source := record fun v =>
  Source.mk
    <$> required v "type" (oneOf sourceTypes .enum)
    <*> required v "name" text
    <*> optional v "unit_name" none (nullable text)
    <*> optional v "attribute" none (nullable text)

/-- A source as a document value. -/
def Source.toValue (s : Source) : Value := .ofFields [
  ("type", .named sourceTypes s.type), ("name", .text s.name),
  ("unit_name", .ofOption .text s.unitName), ("attribute", .ofOption .text s.rule)]

end Muster.Combat
