/-
  Document values as messages show them.

  Truth values and the absent value are capitalised words, texts are quoted, lists stand in square
  brackets and objects in braces, their parts between commas and spaces.
-/
import Muster.Document.Basic
import Muster.Text.Quoted

namespace Muster.Document

open Text

/-- A truth value as messages show it. -/
def showBool (b : Bool) : List Char := (if b then "True" else "False").toList

/-- A list of texts as messages show it. -/
def showTexts (ss : List String) : List Char :=
  '[' :: ([',', ' '].intercalate (ss.map fun s => quotedText s.toList) ++ [']'])

/-- The key of a field as messages show it. -/
def showKey : Key → List Char
  | .text s => quotedText s.toList
  | .other s => s.toList

mutual

/-- A value as messages show it. -/
def display : Value → List Char
  | .null => "None".toList
  | .bool b => showBool b
  | .int n => signed n
  | .double x => x.render
  | .text s => quotedText s.toList
  | .foreign s => s.toList
  | .bytes bs => 'b' :: quotedText (bs.map fun b => Char.ofNat b.toNat)
  | .endless => "...".toList
  | .list vs => '[' :: (displayItems vs ++ [']'])
  | .object fs => '\x7b' :: (displayFields fs ++ ['\x7d'])

/-- Values between commas. -/
def displayItems : List Value → List Char
  | [] => []
  | [v] => display v
  | v :: vs => display v ++ ',' :: ' ' :: displayItems vs

/-- Fields between commas. -/
def displayFields : List (Key × Value) → List Char
  | [] => []
  | [(k, v)] => showKey k ++ ':' :: ' ' :: display v
  | (k, v) :: fs => showKey k ++ ':' :: ' ' :: (display v ++ ',' :: ' ' :: displayFields fs)

end

end Muster.Document
