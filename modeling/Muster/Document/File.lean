/-
  Files that hold a document.

  The suffix of a file's name tells the notation: `.json`, in any case, is JSON, and everything else
  is YAML.  The suffix is that of the last part of a path, from its last dot on; a dot that begins
  or ends the part begins no suffix.
-/
import Muster.Document.Json
import Muster.Document.Yaml
import Muster.Text.Cut
import Muster.Text.LetterCase

namespace Muster.Document

open Text

/-- The last part of a path. -/
def lastPart (path : List Char) : List Char :=
  ((splitWhere (· == '/') path).filter fun p => !p.isEmpty && p != ['.']).getLast?.getD []

/-- The suffix of a path with its dot, empty if there is none. -/
def suffix (path : List Char) : List Char :=
  let r := (lastPart path).reverse
  let after := r.takeWhile (· != '.')
  match r.dropWhile (· != '.') with
  | '.' :: stem => if stem.isEmpty || after.isEmpty then [] else '.' :: after.reverse
  | _ => []

/-- Whether a path names a JSON file. -/
def isJsonPath (path : List Char) : Bool := lower (suffix path) == ".json".toList

/-- Reads what a file holds, in the notation that the file's name tells. -/
def readFile (path content : List Char) : Except Fault Value :=
  if isJsonPath path then Json.read content else Yaml.read content

end Muster.Document
