/-
  YAML 1.1: reading a document.

  A text is cut into tokens, the tokens are read as a tree of nodes, and the tree is given its
  value, which may have faults only if the whole tree could be read.  A text that holds no document
  has the value `null`; one that holds more than one is refused.
-/
import Muster.Document.Yaml.Tree

namespace Muster.Document.Yaml

/-- Reads a whole document. -/
def read (s : List Char) : Except Fault Value := do
  let text := plainBreaks s
  if !text.all isAllowed then .error .malformed
  let root ← Node.ofTokens (tokens text)
  root.value.mapError Prod.snd

end Muster.Document.Yaml
