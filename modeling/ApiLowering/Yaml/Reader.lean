import ApiLowering.Yaml.Node
import ApiLowering.Yaml.Token
import ApiLowering.Yaml.Scalar

/-!
# Reading YAML

The nodes of a token list: collections nest, an anchor gives a node a number that aliases name, and
a text holds one document.

## Main definitions

* `Yaml.Reader` — the tokens that are left and the anchors so far.
* `Yaml.readTree?` — the tree of a text; the tree of an empty text is an empty plain scalar.
-/

namespace ApiLowering.Yaml

/-! ## Anchors -/

/-- The names of anchors and the nodes that aliases stand for. A name that is used again gets a new
number, the number of names before it; a later node may have the same number, and then the node that
started last has it. -/
structure Anchors where
  /-- The number that a name stands for at the moment. -/
  numbers : List (String × Nat)
  /-- How many nodes with anchors have started. -/
  started : Nat
  /-- The nodes with their numbers, and when they started. -/
  nodes : List (Nat × Nat × Node)

namespace Anchors

/-- No anchors. -/
def none : Anchors := ⟨[], 0, []⟩

/-- The number of a name. -/
def number? (a : Anchors) (name : String) : Option Nat := a.numbers.lookup name

/-- Starts a node under a name: the anchors, and the number and the place of the node. -/
def start (a : Anchors) (name : String) : Anchors × Nat × Nat :=
  let number := a.numbers.length
  let numbers := (name, number) :: a.numbers.filter (·.1 != name)
  ({ a with numbers, started := a.started + 1 }, number, a.started)

/-- Ends a node that has a number and a place. -/
def finish (a : Anchors) (number place : Nat) (n : Node) : Anchors :=
  let isLater := a.nodes.any fun (m, p, _) => m == number && place < p
  if isLater then a
  else { a with nodes := (number, place, n) :: a.nodes.filter (·.1 != number) }

/-- The node of a number. -/
def node? (a : Anchors) (number : Nat) : Option Node := (a.nodes.lookup number).map (·.2)

end Anchors

/-- What is left to be read. -/
structure Reader where
  /-- The tokens that are left. -/
  tokens : List Token
  /-- The anchors so far. -/
  anchors : Anchors
  /-- What the handles of tags stand for. -/
  handles : List (String × String)

/-- The leaf of a plain scalar. It keeps its spelling. -/
def plainLeaf (s : String) : Leaf := ⟨resolve s, some ⟨s, .plain, none⟩⟩

/-- A node without content. -/
def emptyNode : Node := .scalar (plainLeaf "")

namespace Reader

/-- The next token. -/
def peek (r : Reader) : Option Token := r.tokens.head?

/-- The tokens after the next one. -/
def skip (r : Reader) : Reader := { r with tokens := r.tokens.drop 1 }

/-- Whether the next token is one of a list. -/
def sees (r : Reader) (ts : List Token) : Bool := r.peek.any fun t => ts.contains t

/-- Anchor and tag of a node, in either order. -/
structure Properties where
  anchor : Option String
  tag : Option String

/-- The full form of a tag. -/
def fullTag? (r : Reader) (handle suffix : String) : Option String :=
  if handle == "" then some suffix
  else match r.handles.find? (·.1 == handle) with
    | some (_, expansion) => some (expansion ++ suffix)
    | none =>
      if handle == "!!" then some (standardTag ++ suffix)
      else if handle == "!" then some ("!" ++ suffix)
      else none

/-- Reads the properties of a node. -/
def properties? (r : Reader) : Option (Properties × Reader) :=
  match r.peek with
  | some (.anchor a) =>
    match r.skip.peek with
    | some (.tag h s) => (r.fullTag? h s).map fun t => (⟨some a, some t⟩, r.skip.skip)
    | _ => some (⟨some a, none⟩, r.skip)
  | some (.tag h s) => do
    let t ← r.fullTag? h s
    match r.skip.peek with
    | some (.anchor a) => some (⟨some a, some t⟩, r.skip.skip)
    | _ => some (⟨none, some t⟩, r.skip)
  | _ => some (⟨none, none⟩, r)

/-- Starts a node: its number and its place, if it has an anchor. -/
def start (r : Reader) (p : Properties) : Option (Nat × Nat) × Reader :=
  match p.anchor with
  | some name =>
    let (anchors, number, place) := r.anchors.start name
    (some (number, place), { r with anchors })
  | none => (none, r)

/-- Ends a node. -/
def finish (r : Reader) (started : Option (Nat × Nat)) (n : Node) : Reader :=
  match started with
  | some (number, place) => { r with anchors := r.anchors.finish number place n }
  | none => r

end Reader

/-! ## Nodes -/

/-- The leaf of a scalar with its properties. -/
def scalarLeaf (p : Reader.Properties) (text : String) (style : ScalarStyle) : Leaf :=
  match p.tag with
  | some tag => ⟨resolveTagged tag text, some ⟨text, style, some tag⟩⟩
  | none => if style = .plain then plainLeaf text else .ofText text

/-- Whether a node has a tag of its author's own. -/
def Reader.Properties.isMarked (p : Reader.Properties) : Bool := p.tag.any isOwnTag

open Reader in
mutual

/-- Reads a node. `block` allows block collections, `indentless` a sequence without indentation. -/
def readNode? : Nat → Bool → Bool → Reader → Option (Node × Reader)
  | 0, _, _, _ => none
  | fuel + 1, block, indentless, r =>
    match r.peek with
    | some (.alias name) => (r.anchors.number? name).map fun n => (.alias n, r.skip)
    | _ => do
      let (p, r) ← r.properties?
      let (started, r) := r.start p
      let list (items : Option (List Node × Reader)) : Option (Node × Reader) :=
        items.map fun (xs, r) =>
          let n := Node.list p.isMarked xs
          (n, r.finish started n)
      let record (entries : Option (List (Node × Node) × Reader)) : Option (Node × Reader) :=
        entries.map fun (es, r) =>
          let n := Node.record p.isMarked es
          (n, r.finish started n)
      let empty : Option (Node × Reader) :=
        if p.anchor.isSome || p.tag.isSome then
          let n := Node.scalar (scalarLeaf p "" .plain)
          some (n, r.finish started n)
        else none
      match r.peek with
      | some (.scalar text style) =>
        let n := Node.scalar (scalarLeaf p text style)
        some (n, r.skip.finish started n)
      | some .flowSequenceStart => list (readFlowItems? fuel true r.skip)
      | some .flowMappingStart => record (readFlowEntries? fuel true r.skip)
      | some .blockEntry => if indentless then list (readItems? fuel true r) else empty
      | some .blockSequenceStart => if block then list (readItems? fuel false r.skip) else empty
      | some .blockMappingStart => if block then record (readEntries? fuel r.skip) else empty
      | _ => empty

/-- Reads the entries of a block sequence, with or without indentation. -/
def readItems? : Nat → Bool → Reader → Option (List Node × Reader)
  | 0, _, _ => none
  | fuel + 1, indentless, r =>
    match r.peek with
    | some .blockEntry => do
      let r := r.skip
      let stop := if indentless then [Token.blockEntry, .key, .value, .blockEnd]
        else [.blockEntry, .blockEnd]
      let (x, r) ←
        if r.sees stop then some (emptyNode, r)
        else readNode? fuel true false r
      let (xs, r) ← readItems? fuel indentless r
      some (x :: xs, r)
    | some .blockEnd => some ([], if indentless then r else r.skip)
    | _ => if indentless then some ([], r) else none

/-- Reads the entries of a block mapping. -/
def readEntries? : Nat → Reader → Option (List (Node × Node) × Reader)
  | 0, _ => none
  | fuel + 1, r =>
    let stop := [Token.key, .value, .blockEnd]
    let value? (r : Reader) : Option (Node × Reader) :=
      if r.sees [.value] then
        if r.skip.sees stop then some (emptyNode, r.skip)
        else readNode? fuel true true r.skip
      else some (emptyNode, r)
    match r.peek with
    | some .key => do
      let r := r.skip
      let (k, r) ←
        if r.sees stop then some (emptyNode, r)
        else readNode? fuel true true r
      let (v, r) ← value? r
      let (es, r) ← readEntries? fuel r
      some ((k, v) :: es, r)
    | some .blockEnd => some ([], r.skip)
    | _ => none

/-- Reads the entries of a sequence in brackets. -/
def readFlowItems? : Nat → Bool → Reader → Option (List Node × Reader)
  | 0, _, _ => none
  | fuel + 1, first, r => do
    if r.sees [.flowSequenceEnd] then return ([], r.skip)
    let r ← if first then some r else if r.sees [.flowEntry] then some r.skip else none
    if r.sees [.flowSequenceEnd] then return ([], r.skip)
    let (x, r) ←
      if r.sees [.key] then
        let r := r.skip
        let (k, r) ←
          if r.sees [.value, .flowEntry, .flowSequenceEnd] then
            some (emptyNode, r.skip)
          else readNode? fuel false false r
        let (v, r) ←
          if r.sees [.value] then
            if r.skip.sees [.flowEntry, .flowSequenceEnd] then
              some (emptyNode, r.skip)
            else readNode? fuel false false r.skip
          else some (emptyNode, r)
        some (.record false [(k, v)], r)
      else readNode? fuel false false r
    let (xs, r) ← readFlowItems? fuel false r
    return (x :: xs, r)

/-- Reads the entries of a mapping in braces. -/
def readFlowEntries? : Nat → Bool → Reader → Option (List (Node × Node) × Reader)
  | 0, _, _ => none
  | fuel + 1, first, r => do
    if r.sees [.flowMappingEnd] then return ([], r.skip)
    let r ← if first then some r else if r.sees [.flowEntry] then some r.skip else none
    if r.sees [.flowMappingEnd] then return ([], r.skip)
    let (k, v, r) ←
      if r.sees [.key] then
        let r := r.skip
        let (k, r) ←
          if r.sees [.value, .flowEntry, .flowMappingEnd] then
            some (emptyNode, r)
          else readNode? fuel false false r
        let (v, r) ←
          if r.sees [.value] then
            if r.skip.sees [.flowEntry, .flowMappingEnd] then
              some (emptyNode, r.skip)
            else readNode? fuel false false r.skip
          else some (emptyNode, r)
        some (k, v, r)
      else
        let (k, r) ← readNode? fuel false false r
        some (k, emptyNode, r)
    let (es, r) ← readFlowEntries? fuel false r
    return ((k, v) :: es, r)

end

/-! ## Documents -/

/-- Passes the directives before a document: whether its version has been given and what the
handles of tags stand for, each of which is said once. None if the document does not start after
them. -/
def passDirectives? : Bool → List (String × String) → List Token →
    Option (List Token × List (String × String))
  | hasVersion, handles, .versionDirective :: rest =>
    if hasVersion then none else passDirectives? true handles rest
  | hasVersion, handles, .tagDirective handle expansion :: rest =>
    if (handles.lookup handle).isSome then none
    else passDirectives? hasVersion ((handle, expansion) :: handles) rest
  | _, handles, .documentStart :: rest => some (rest, handles)
  | _, _, _ => none

/-- Whether a token stands before a document. -/
def Token.isDocumentStart : Token → Bool
  | .versionDirective | .tagDirective .. | .documentStart => true
  | _ => false

/-- Reads the single document of a token list. -/
def readDocument? (tokens : List Token) : Option (Node × Anchors) := do
  match tokens with
  | [] => some (emptyNode, .none)
  | first :: _ =>
    let (tokens, handles) ←
      if first.isDocumentStart then passDirectives? false [] tokens else some (tokens, [])
    let r : Reader := { tokens, anchors := .none, handles }
    let isEmpty := first.isDocumentStart &&
      tokens.head?.all fun t => t.isDocumentStart || t == .documentEnd
    let (n, r) ←
      if isEmpty then some (emptyNode, r)
      else readNode? (4 * tokens.length + 4) true false r
    if (r.tokens.dropWhile (· == .documentEnd)).isEmpty then some (n, r.anchors) else none

/-- The tree of a text that holds one document. -/
def readTree? (s : String) : Option Tree := do
  let tokens ← Token.ofText? s
  let (n, anchors) ← readDocument? tokens.toList
  return n.tree anchors.node?

end ApiLowering.Yaml
