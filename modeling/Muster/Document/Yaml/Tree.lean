/-
  Reading the nodes of YAML from tokens.

  An ANCHOR names a node, and an alias stands for the node that was named; a name is given once and
  before it is used, and an alias within the node itself stands for the whole node again.  Absent
  nodes, as the value of `a:` at the end of a mapping, are empty plain scalars.

  The functions that read collections take the items read so far, last first, and end with the token
  that closes the collection.  Collections may be nested 488 deep.  Reading is by fuel; every token
  is looked at by a few calls at most, so a multiple of their number is enough.
-/
import Muster.Document.Yaml.Node
import Muster.Document.Yaml.Token

namespace Muster.Document.Yaml

open Text

/-! ## Directives and tags -/

/-- The handles of tags, with what they stand for. -/
abbrev Handles := List (List Char × List Char)

/-- The handles that every document has. -/
def standardHandles : Handles := [(['!'], ['!']), (['!', '!'], standardStem)]

/-- Reads the directives before a document; a version or a handle is stated once. -/
def readDirectives : Bool → Handles → List Token → Option (Handles × List Token)
  | stated, hs, .version major :: ts =>
    if stated || major != 1 then none else readDirectives true hs ts
  | stated, hs, .tagHandle handle stem :: ts =>
    if (hs.lookup handle).isSome then none else readDirectives stated ((handle, stem) :: hs) ts
  | stated, hs, .directive :: ts => readDirectives stated hs ts
  | _, hs, ts => some (hs ++ standardHandles, ts)

/-- What stands before the content of a node. -/
structure Properties where
  anchor : Option (List Char)
  /-- The name of the tag, its handle spelled out. -/
  tag : Option (List Char)

/-- Whether there are any properties. -/
def Properties.any (p : Properties) : Bool := p.anchor.isSome || p.tag.isSome

/-- Whether the tag follows from the node's looks. -/
def Properties.isOpen (p : Properties) : Bool := p.tag == none || p.tag == some ['!']

/-- The tag, or else another one. -/
def Properties.tagOr (p : Properties) (t : Tag) : Tag :=
  if p.isOpen then t else (p.tag.map Tag.ofName).getD t

/-- The name of a tag. -/
def tagName (hs : Handles) : Option (List Char) → List Char → Option (List Char)
  | none, rest => some rest
  | some handle, rest => (hs.lookup handle).map (· ++ rest)

/-- What is wrong with tokens of which the first is not one that may stand there. -/
def misplaced : List Token → Fault
  | .broken f :: _ => f
  | _ => .malformed

/-- An anchor and a tag in either order. -/
def readProperties (hs : Handles) : List Token → Except Fault (Properties × List Token)
  | .anchor a :: .tag h r :: ts => do return (⟨some a, ← orMalformed (tagName hs h r)⟩, ts)
  | .tag h r :: .anchor a :: ts => do return (⟨some a, ← orMalformed (tagName hs h r)⟩, ts)
  | .anchor a :: ts => .ok (⟨some a, none⟩, ts)
  | .tag _ _ :: .broken f :: _ => .error f
  | .tag h r :: ts => do return (⟨none, ← orMalformed (tagName hs h r)⟩, ts)
  | ts => .ok (⟨none, none⟩, ts)

/-- The tag of a scalar: a plain one looks like something, a marked one is a text. -/
def Properties.scalarTag (p : Properties) (style : Style) (text : List Char) : Tag :=
  let t := p.tagOr (if style == .plain || p.tag.isSome then plainTag text else .text)
  if style == .torn && t == .text then .torn else t

/-! ## Trees -/

/-- The nodes named so far. -/
abbrev Anchors := List (List Char × Node)

/-- Notes that a node of a name is being read; a name is given once. -/
def Anchors.begin (as : Anchors) : Option (List Char) → Except Fault Anchors
  | none => .ok as
  | some a => if (as.lookup a).isSome then .error .malformed else .ok ((a, .pending a) :: as)

/-- Names a node that is complete, also in the nodes within it that were named before. -/
def Anchors.finish (as : Anchors) (n : Node) : Option (List Char) → Node × Anchors
  | none => (n, as)
  | some a =>
    let m := n.name a
    let as := if n.hasPending (· == a) then as.map fun p => (p.1, Node.fill a m p.2) else as
    (m, (a, m) :: as)

/-- Where a node may stand. -/
inductive Place where
  /-- Within brackets or braces. -/
  | flow
  | block
  /-- As a key or value of a block mapping, where a sequence need not be indented. -/
  | pair
deriving DecidableEq

/-- Whether a token opens a collection at a place. -/
def opens : Place → Token → Bool
  | _, .flowSequence | _, .flowMapping => true
  | .block, .blockSequence | .block, .blockMapping => true
  | .pair, .blockSequence | .pair, .blockMapping | .pair, .entry => true
  | _, _ => false

/-- Whether a part of a block mapping is absent before a token. -/
def endsPart : Token → Bool
  | .key | .value | .blockEnd => true
  | _ => false

/-- Whether an entry is absent before a token. -/
def endsEntry : Token → Bool
  | .entry | .blockEnd => true
  | _ => false

/-- Whether an entry of a sequence that is not indented is absent before a token. -/
def endsLooseEntry : Token → Bool
  | .entry | .key | .value | .blockEnd => true
  | _ => false

/-- Whether a key within brackets or braces is absent before a token. -/
def endsFlowKey : Token → Bool
  | .value | .comma | .flowSequenceEnd | .flowMappingEnd => true
  | _ => false

/-- Whether a value within brackets or braces is absent before a token. -/
def endsFlowValue : Token → Bool
  | .comma | .flowSequenceEnd | .flowMappingEnd => true
  | _ => false

/-- What remains after something was read: the nodes named by then, and the tokens. -/
abbrev Rest := Anchors × List Token

/-- A sequence after its items. -/
def asSequence (p : Properties) (r : List Node × Rest) : Node × Rest :=
  (.sequence (p.tagOr .list) r.1, r.2)

/-- A mapping after its pairs. -/
def asMapping (p : Properties) (r : List (Node × Node) × Rest) : Node × Rest :=
  (.mapping (p.tagOr .mapping) r.1, r.2)

mutual

/-- A node; `deep` collections may be nested. -/
def readNode (hs : Handles) : Nat → Nat → Place → Anchors → List Token → Except Fault (Node × Rest)
  | 0, _, _, _, _ => .error .malformed
  | fuel + 1, deep, place, as, ts =>
    match ts with
    | .alias a :: ts => do return (← orMalformed (as.lookup a), as, ts)
    | _ => do
      let (p, ts) ← readProperties hs ts
      if let .broken f :: _ := ts then .error f
      let as ← as.begin p.anchor
      let (n, as, ts) ← readContent hs fuel deep place p as ts
      let (n, as) := as.finish n p.anchor
      return (n, as, ts)

/-- The content of a node with its properties. -/
def readContent (hs : Handles) :
    Nat → Nat → Place → Properties → Anchors → List Token → Except Fault (Node × Rest)
  | 0, _, _, _, _, _ => .error .malformed
  | fuel + 1, deep, place, p, as, ts =>
    match ts with
    | .scalar text style :: ts => .ok (.scalar (p.scalarTag style text) text, as, ts)
    | t :: ts =>
      if !opens place t then
        if p.any then .ok (.scalar (p.tagOr .null) [], as, t :: ts)
        else .error (misplaced (t :: ts))
      else match deep with
        | 0 => .error .tooDeep
        | deep + 1 =>
          match t with
          | .flowSequence => (readFlowItems hs fuel deep true [] as ts).map (asSequence p)
          | .flowMapping => (readFlowPairs hs fuel deep true [] as ts).map (asMapping p)
          | .blockSequence => (readEntries hs fuel deep [] as ts).map (asSequence p)
          | .blockMapping => (readPairs hs fuel deep [] as ts).map (asMapping p)
          | _ => (readLooseEntries hs fuel deep [] as (t :: ts)).map (asSequence p)
    | [] => .error .malformed

/-- A node, or the absent one if a token comes before which nothing stands. -/
def readPart (hs : Handles) :
    Nat → Nat → Place → (Token → Bool) → Anchors → List Token → Except Fault (Node × Rest)
  | 0, _, _, _, _, _ => .error .malformed
  | fuel + 1, deep, place, ends, as, ts =>
    match ts with
    | [] => .error .malformed
    | t :: _ => if ends t then .ok (.absent, as, ts) else readNode hs fuel deep place as ts

/-- What follows a colon, or the absent node if there is no colon. -/
def readValue (hs : Handles) :
    Nat → Nat → Place → (Token → Bool) → Anchors → List Token → Except Fault (Node × Rest)
  | 0, _, _, _, _, _ => .error .malformed
  | fuel + 1, deep, place, ends, as, ts =>
    match ts with
    | .value :: ts => readPart hs fuel deep place ends as ts
    | ts => .ok (.absent, as, ts)

/-- The entries of a block sequence. -/
def readEntries (hs : Handles) :
    Nat → Nat → List Node → Anchors → List Token → Except Fault (List Node × Rest)
  | 0, _, _, _, _ => .error .malformed
  | fuel + 1, deep, acc, as, ts =>
    match ts with
    | .entry :: ts => do
      let (n, as, ts) ← readPart hs fuel deep .block endsEntry as ts
      readEntries hs fuel deep (n :: acc) as ts
    | .blockEnd :: ts => .ok (acc.reverse, as, ts)
    | ts => .error (misplaced ts)

/-- The entries of a block sequence that is not indented. -/
def readLooseEntries (hs : Handles) :
    Nat → Nat → List Node → Anchors → List Token → Except Fault (List Node × Rest)
  | 0, _, _, _, _ => .error .malformed
  | fuel + 1, deep, acc, as, ts =>
    match ts with
    | .entry :: ts => do
      let (n, as, ts) ← readPart hs fuel deep .block endsLooseEntry as ts
      readLooseEntries hs fuel deep (n :: acc) as ts
    | ts => .ok (acc.reverse, as, ts)

/-- The pairs of a block mapping. -/
def readPairs (hs : Handles) :
    Nat → Nat → List (Node × Node) → Anchors → List Token
      → Except Fault (List (Node × Node) × Rest)
  | 0, _, _, _, _ => .error .malformed
  | fuel + 1, deep, acc, as, ts =>
    match ts with
    | .key :: ts => do
      let (k, as, ts) ← readPart hs fuel deep .pair endsPart as ts
      let (v, as, ts) ← readValue hs fuel deep .pair endsPart as ts
      readPairs hs fuel deep ((k, v) :: acc) as ts
    | .blockEnd :: ts => .ok (acc.reverse, as, ts)
    | ts => .error (misplaced ts)

/-- The items between brackets; a pair among them is a mapping by itself.  `first` says whether no
    comma is due. -/
def readFlowItems (hs : Handles) :
    Nat → Nat → Bool → List Node → Anchors → List Token → Except Fault (List Node × Rest)
  | 0, _, _, _, _, _ => .error .malformed
  | fuel + 1, deep, first, acc, as, ts =>
    match first, ts with
    | _, .flowSequenceEnd :: ts => .ok (acc.reverse, as, ts)
    | false, .comma :: ts => readFlowItems hs fuel deep true acc as ts
    | true, .key :: ts => do
      let (k, as, ts) ← readPart hs fuel deep .flow endsFlowKey as ts
      let (v, as, ts) ← readValue hs fuel deep .flow endsFlowValue as ts
      readFlowItems hs fuel deep false (.mapping .mapping [(k, v)] :: acc) as ts
    | true, ts => do
      let (n, as, ts) ← readNode hs fuel deep .flow as ts
      readFlowItems hs fuel deep false (n :: acc) as ts
    | false, ts => .error (misplaced ts)

/-- The pairs between braces. -/
def readFlowPairs (hs : Handles) :
    Nat → Nat → Bool → List (Node × Node) → Anchors → List Token
      → Except Fault (List (Node × Node) × Rest)
  | 0, _, _, _, _, _ => .error .malformed
  | fuel + 1, deep, first, acc, as, ts =>
    match first, ts with
    | _, .flowMappingEnd :: ts => .ok (acc.reverse, as, ts)
    | false, .comma :: ts => readFlowPairs hs fuel deep true acc as ts
    | true, .key :: ts => do
      let (k, as, ts) ← readPart hs fuel deep .flow endsFlowKey as ts
      let (v, as, ts) ← readValue hs fuel deep .flow endsFlowValue as ts
      readFlowPairs hs fuel deep false ((k, v) :: acc) as ts
    | true, ts => do
      let (k, as, ts) ← readNode hs fuel deep .flow as ts
      readFlowPairs hs fuel deep false ((k, .absent) :: acc) as ts
    | false, ts => .error (misplaced ts)

end

/-! ## Documents -/

/-- Fuel for some tokens. -/
def fuelFor (ts : List Token) : Nat := 6 * ts.length + 6

/-- The most collections that may be nested. -/
def deepest : Nat := 488

/-- Whether a document is empty before a token. -/
def endsDocument : Token → Bool
  | .version _ | .tagHandle .. | .directive | .documentStart | .documentEnd | .textEnd => true
  | _ => false

/-- The content of a document after its start. -/
def readDocument (hs : Handles) (ts : List Token) : Except Fault (Node × Rest) :=
  readPart hs (fuelFor ts) deepest .block endsDocument [] ts

/-- The marks at the end of a document, and the end of the text. -/
def isTextEnd : List Token → Bool
  | .documentEnd :: ts => isTextEnd ts
  | [.textEnd] => true
  | _ => false

/-- What is wrong with tokens after a document that do not end the text. -/
def misplacedAfter : List Token → Fault
  | .documentEnd :: ts => misplacedAfter ts
  | ts =>
    match readDirectives false [] ts with
    | some (_, ts) => misplaced ts
    | none => .malformed

/-- The only document of some tokens, absent if there is none. -/
def Node.ofTokens (ts : List Token) : Except Fault Node := do
  let (n, _, rest) ← match ts with
    | .textEnd :: _ => .ok (Node.absent, [], ts)
    | .version _ :: _ | .tagHandle .. :: _ | .directive :: _ | .documentStart :: _ => do
      let (hs, ts) ← orMalformed (readDirectives false [] ts)
      match ts with
      | .documentStart :: ts => readDocument hs ts
      | ts => .error (misplaced ts)
    | _ => readNode standardHandles (fuelFor ts) deepest .block [] ts
  if isTextEnd rest then return n else .error (misplacedAfter rest)

end Muster.Document.Yaml
