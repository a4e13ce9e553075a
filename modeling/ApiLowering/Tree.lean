import ApiLowering.Json.Basic

/-!
# Parsed texts

What a reader makes of a text before anything is known of its meaning: lists and records over typed
leaves. A record keeps its entries in the order of the text, repeated keys included.

A scalar of a text may keep its spelling: where a document wants a text, the spelling `1.0` is one,
although the leaf itself is a number. A node may also have a tag of the author's own, which only a
position that knows its kind takes. `Tree.settle?` gives spellings and tags up, and from there on a
list may take the place of a record.

## Main definitions

* `Leaf`, `Tree` — scalars and trees.
* `Tree.settle?` — the tree without the spellings.
* `Tree.toJson?` — the tree as a free-form value.

## Main results

* `Tree.settle?_marked` — a collection with a tag of its own does not settle.
-/

namespace ApiLowering

/-- The typed value of a scalar. -/
inductive Scalar where
  | null
  | bool (b : Bool)
  | number (n : Number)
  /-- A double-precision number that is infinite or no number. -/
  | nonFinite
  | text (s : String)
  /-- A scalar that no position accepts: a number out of range, broken text, too deep a nesting. -/
  | unreadable
deriving Repr, Inhabited

/-- How a scalar is set off from its surroundings. -/
inductive ScalarStyle where
  | plain
  /-- A block that keeps its line breaks. -/
  | literal
  /-- In quotes, or a block that does not keep its line breaks. -/
  | quoted
deriving Repr, DecidableEq, Inhabited

/-- How a text writes a scalar. -/
structure Spelling where
  text : String
  style : ScalarStyle
  tag : Option String
deriving Repr, DecidableEq, Inhabited

/-- A scalar of a parsed text. -/
structure Leaf where
  /-- The typed value. -/
  value : Scalar
  /-- The spelling, where a position that knows its kind may take it. -/
  spelling : Option Spelling
deriving Repr, Inhabited

/-- A parsed text. -/
inductive Tree where
  | leaf (l : Leaf)
  /-- A list. If its items may stand for fields by their positions, it can take the place of a
  record with known fields. -/
  | list (items : List Tree) (positional : Bool)
  | record (entries : List (Leaf × Tree))
  /-- A collection with a tag of its author's own. -/
  | marked (t : Tree)
deriving Repr, Inhabited

namespace Leaf

/-- A leaf without a spelling of its own. -/
def ofScalar (s : Scalar) : Leaf := ⟨s, none⟩

/-- The leaf of a quoted text. -/
def ofText (s : String) : Leaf := ⟨.text s, none⟩

/-- The leaf as a text. -/
def text? (l : Leaf) : Option String :=
  match l.spelling, l.value with
  | some s, _ => some s.text
  | none, .text s => some s
  | none, _ => none

/-- The leaf without its spelling; none if no position accepts it then. -/
def settle? (l : Leaf) : Option Leaf :=
  match l.value with
  | .unreadable => none
  | v => some ⟨v, none⟩

end Leaf

namespace Tree

mutual

/-- The tree without the spellings of its leaves; none if part of it needs a position that knows its
kind. -/
def settle? : Tree → Option Tree
  | .leaf l => l.settle?.map .leaf
  | .list xs _ => (settleItems? xs).map fun xs => .list xs true
  | .record es => (settleEntries? es).map .record
  | .marked _ => none

/-- The items without spellings. -/
def settleItems? : List Tree → Option (List Tree)
  | [] => some []
  | x :: xs => do
    let y ← settle? x
    let ys ← settleItems? xs
    return y :: ys

/-- The entries without spellings. -/
def settleEntries? : List (Leaf × Tree) → Option (List (Leaf × Tree))
  | [] => some []
  | e :: es => do
    let y ← settleEntry? e
    let ys ← settleEntries? es
    return y :: ys

/-- One entry without spellings. -/
def settleEntry? : Leaf × Tree → Option (Leaf × Tree)
  | (k, v) => do
    let key ← k.settle?
    let value ← settle? v
    return (key, value)

end

/-- A collection with a tag of its own does not settle. -/
theorem settle?_marked (t : Tree) : settle? (.marked t) = none := by rw [settle?]

/-- A scalar as a free-form value; a number without a finite value becomes null. -/
def scalarJson? : Scalar → Option Json
  | .null => some .null
  | .bool b => some (.bool b)
  | .number n => some (.number n)
  | .nonFinite => some .null
  | .text s => some (.string s)
  | .unreadable => none

mutual

/-- The tree as a free-form value: the keys of records have to be texts. -/
def toJson? : Tree → Option Json
  | .leaf l => scalarJson? l.value
  | .list xs _ => (itemsJson? xs).map .array
  | .record es => (entriesJson? es).map .object
  | .marked _ => none

/-- The items as free-form values. -/
def itemsJson? : List Tree → Option (List Json)
  | [] => some []
  | x :: xs => do
    let v ← toJson? x
    let vs ← itemsJson? xs
    return v :: vs

/-- The entries as members. -/
def entriesJson? : List (Leaf × Tree) → Option (List (String × Json))
  | [] => some []
  | e :: es => do
    let m ← entryJson? e
    let ms ← entriesJson? es
    return m :: ms

/-- One entry as a member. -/
def entryJson? : Leaf × Tree → Option (String × Json)
  | (k, v) => do
    let key ← k.text?
    let value ← toJson? v
    return (key, value)

end

mutual

/-- A free-form value as a tree. -/
def ofJson : Json → Tree
  | .null => .leaf (.ofScalar .null)
  | .bool b => .leaf (.ofScalar (.bool b))
  | .number n => .leaf (.ofScalar (.number n))
  | .string s => .leaf (.ofText s)
  | .array xs => .list (ofItems xs) true
  | .members es => .record (ofMembers es)

/-- Free-form values as trees. -/
def ofItems : List Json → List Tree
  | [] => []
  | x :: xs => ofJson x :: ofItems xs

/-- Members as entries. -/
def ofMembers : List (String × Json) → List (Leaf × Tree)
  | [] => []
  | e :: es => ofMember e :: ofMembers es

/-- One member as an entry. -/
def ofMember : String × Json → Leaf × Tree
  | (k, v) => (.ofText k, ofJson v)

end

end Tree

end ApiLowering
