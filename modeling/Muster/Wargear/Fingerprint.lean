/-
  Fingerprints: a datasheet's generation key.

  Loadouts depend on the default-loadout text, on the option lines in line order, on the roster, the
  weapons and the wargear abilities, and on nothing else of a datasheet but its id.  The FINGERPRINT
  is the SHA-256 digest of these parts in one sequence of bytes, so that an edit to any of them
  gives another key, as long as no text brings a NUL with it.  The sequence is a definition of its
  own, `fingerprintText`: what tells two datasheets apart is the sequence, and the digest only
  shortens it.
-/
import Muster.Digest.Sha256
import Muster.Document.Json
import Muster.Wargear.Datasheet

namespace Muster.Wargear

open Text Document

/-- An option line in the sequence: its number and its text, each after a NUL. -/
def lineText (o : OptionLine) : List Char :=
  let nul := Char.ofNat 0
  nul :: (signed o.line ++ nul :: o.description.toList)

/-- A roster entry as a document value. -/
def RosterEntry.toValue (e : RosterEntry) : Value := .ofFields [
  ("description", .text e.description), ("min", .int e.min), ("max", .int e.max)]

/-- A weapon as a document value. -/
def Weapon.toValue (w : Weapon) : Value := .ofFields [("id", .text w.id), ("name", .text w.name)]

/-- Roster, weapons and abilities as a document value. -/
def Datasheet.catalog (d : Datasheet) : Value := .ofFields [
  ("unit_composition", .list (d.roster.map RosterEntry.toValue)),
  ("weapons", .list (d.weapons.map Weapon.toValue)),
  ("wargear_abilities", .list (d.abilities.map Value.text))]

/-- Everything that loadouts depend on, as one text. -/
def fingerprintText (d : Datasheet) : List Char :=
  d.defaultLoadout.toList ++ (inLineOrder d.options).flatMap lineText ++ Json.write d.catalog

/-- The bytes of the text in UTF-8. -/
def fingerprintBytes (d : Datasheet) : List UInt8 :=
  (String.ofList (fingerprintText d)).toUTF8.toList

/-- The fingerprint of a datasheet, as 64 hexadecimal digits. -/
def fingerprint (d : Datasheet) : String := (Digest.sha256 (fingerprintBytes d)).hex

end Muster.Wargear
