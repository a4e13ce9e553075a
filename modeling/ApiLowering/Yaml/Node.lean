import ApiLowering.Tree

/-!
# Nodes with aliases

What a text writes down before its aliases are followed. An alias stands for its target over and
over, the target itself may hold aliases, and it may even hold this one. So a tree is only made of
nodes up to a depth, and following aliases has a budget.

## Main definitions

* `Yaml.Node` — a node as it is written.
* `Yaml.Node.size` — the number of its parts.
* `Yaml.Node.tree` — the tree of a node, its aliases followed.

## Main results

* `Yaml.Node.follow_eq_of_fuel` — a scalar needs no fuel to be followed beyond the first step.
-/

namespace ApiLowering.Yaml

/-- A node as it is written. A collection is marked if it has a tag of its author's own. -/
inductive Node where
  /-- Stands for the node of a number. -/
  | alias (target : Nat)
  | scalar (l : Leaf)
  | list (isMarked : Bool) (items : List Node)
  | record (isMarked : Bool) (entries : List (Node × Node))
deriving Inhabited

namespace Node

/-! ## Size -/

mutual

/-- The number of parts: scalars, aliases, and the two ends of each collection. -/
def size : Node → Nat
  | .alias _ => 1
  | .scalar _ => 1
  | .list _ items => sizeOfItems items + 2
  | .record _ entries => sizeOfEntries entries + 2

/-- The number of parts of some items. -/
def sizeOfItems : List Node → Nat
  | [] => 0
  | x :: xs => size x + sizeOfItems xs

/-- The number of parts of some entries. -/
def sizeOfEntries : List (Node × Node) → Nat
  | [] => 0
  | e :: es => sizeOfEntry e + sizeOfEntries es

/-- The number of parts of an entry. -/
def sizeOfEntry : Node × Node → Nat
  | (k, v) => size k + size v

end

/-! ## Trees -/

/-- A tree that no position accepts. -/
def unreadable : Tree := .leaf (.ofScalar .unreadable)

/-- A tree in the place of a key: collections are no keys. -/
def keyOf : Tree → Leaf
  | .leaf l => l
  | _ => .ofScalar .unreadable

/-- A collection with or without a tag of its author's own. -/
def markIf (isMarked : Bool) (t : Tree) : Tree := if isMarked then .marked t else t

mutual

/-- The tree of a node, and the budget that is left. `follow` gives the tree of an alias' target at
a depth. Collections below the depth and aliases beyond the budget are not readable. -/
def treeWith (follow : (target depth budget : Nat) → Tree × Nat) :
    Node → (depth budget : Nat) → Tree × Nat
  | .alias target, depth, budget =>
    match budget with
    | 0 => (unreadable, 0)
    | left + 1 => follow target depth left
  | .scalar l, _, budget => (.leaf l, budget)
  | .list isMarked items, depth, budget =>
    match depth with
    | 0 => (unreadable, budget)
    | inner + 1 =>
      let (xs, left) := itemsWith follow items inner budget
      (markIf isMarked (.list xs false), left)
  | .record isMarked entries, depth, budget =>
    match depth with
    | 0 => (unreadable, budget)
    | inner + 1 =>
      let (es, left) := entriesWith follow entries inner budget
      (markIf isMarked (.record es), left)

/-- The trees of some items. -/
def itemsWith (follow : (target depth budget : Nat) → Tree × Nat) :
    List Node → (depth budget : Nat) → List Tree × Nat
  | [], _, budget => ([], budget)
  | x :: xs, depth, budget =>
    let (t, left) := treeWith follow x depth budget
    let (ts, left) := itemsWith follow xs depth left
    (t :: ts, left)

/-- The trees of some entries. -/
def entriesWith (follow : (target depth budget : Nat) → Tree × Nat) :
    List (Node × Node) → (depth budget : Nat) → List (Leaf × Tree) × Nat
  | [], _, budget => ([], budget)
  | e :: es, depth, budget =>
    let (t, left) := entryWith follow e depth budget
    let (ts, left) := entriesWith follow es depth left
    (t :: ts, left)

/-- The key and the tree of an entry. -/
def entryWith (follow : (target depth budget : Nat) → Tree × Nat) :
    Node × Node → (depth budget : Nat) → (Leaf × Tree) × Nat
  | (k, v), depth, budget =>
    let (key, left) := treeWith follow k depth budget
    let (value, left) := treeWith follow v depth left
    ((keyOf key, value), left)

end

/-- The tree of an alias' target. The first argument bounds how many aliases may lead to each
other. -/
def follow (target? : Nat → Option Node) : Nat → (target depth budget : Nat) → Tree × Nat
  | 0, _, _, budget => (unreadable, budget)
  | fuel + 1, target, depth, budget =>
    match target? target with
    | some n => treeWith (follow target? fuel) n depth budget
    | none => (unreadable, budget)

/-- Collections may be nested this deeply. -/
def maxDepth : Nat := 128

/-- So many aliases may be followed for each part of the text. -/
def aliasesPerPart : Nat := 100

/-- The tree of a node. An alias leads to a scalar or one level down, so that the fuel does not run
out before the depth does. -/
def tree (target? : Nat → Option Node) (n : Node) : Tree :=
  (treeWith (follow target? (maxDepth + 2)) n maxDepth (aliasesPerPart * n.size)).1

/-- A scalar needs no fuel to be followed beyond the first step. -/
theorem follow_eq_of_fuel (target? : Nat → Option Node) (fuel target depth budget : Nat) (l : Leaf)
    (h : target? target = some (.scalar l)) :
    follow target? (fuel + 1) target depth budget = (.leaf l, budget) := by
  rw [follow, h]
  simp only [treeWith]

end Node

end ApiLowering.Yaml
