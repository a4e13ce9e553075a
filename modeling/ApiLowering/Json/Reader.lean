import ApiLowering.Tree

/-!
# Reading JSON

The reader turns a text into a tree. A literal that is well formed but has no value — a number out
of range, half a surrogate pair, a list or record nested too deeply — becomes an unreadable leaf, so
that it is refused exactly where somebody wants its value.

## Main definitions

* `Json.readString?` — the string after an opening quote.
* `Json.readTree?` — the tree of a whole text.
* `Json.read?` — the free-form value of a whole text.
-/

namespace ApiLowering.Json

/-! ## Blanks and literals -/

/-- White space between tokens. -/
def isSpace (c : Char) : Bool := c == ' ' || c == '\n' || c == '\t' || c == '\r'

/-- The text after white space. -/
def skipSpace (cs : List Char) : List Char := cs.dropWhile isSpace

/-- The text after a given word. -/
def dropWord? : List Char → List Char → Option (List Char)
  | [], rest => some rest
  | _ :: _, [] => none
  | w :: ws, c :: cs => if w = c then dropWord? ws cs else none

/-! ## Strings -/

/-- The value of a hexadecimal digit. -/
def hexValue? (c : Char) : Option Nat :=
  if c.isDigit then some (c.toNat - 48)
  else if 'a' ≤ c ∧ c ≤ 'f' then some (c.toNat - 87)
  else if 'A' ≤ c ∧ c ≤ 'F' then some (c.toNat - 55)
  else none

/-- The unit of four hexadecimal digits, and the rest. -/
def readUnit? : List Char → Option (Nat × List Char)
  | a :: b :: c :: d :: rest => do
    let a ← hexValue? a
    let b ← hexValue? b
    let c ← hexValue? c
    let d ← hexValue? d
    return (((a * 16 + b) * 16 + c) * 16 + d, rest)
  | _ => none

/-- The character of a one-letter escape. -/
def shortEscape? (c : Char) : Option Char :=
  if c = '"' ∨ c = '\\' ∨ c = '/' then some c
  else if c = 'b' then some (Char.ofNat 8)
  else if c = 'f' then some (Char.ofNat 12)
  else if c = 'n' then some '\n'
  else if c = 'r' then some '\r'
  else if c = 't' then some '\t'
  else none

/-- A piece of a string: a character, or half a surrogate pair. -/
abbrev Piece := Option Char

/-- Whether a unit is the first half of a surrogate pair. -/
def isHighSurrogate (u : Nat) : Bool := 0xD800 ≤ u && u < 0xDC00

/-- Whether a unit is the second half of a surrogate pair. -/
def isLowSurrogate (u : Nat) : Bool := 0xDC00 ≤ u && u < 0xE000

/-- The character of an escape by its unit; a first half has to be followed by a second one. -/
def readEscapedUnit (u : Nat) (rest : List Char) : Piece × List Char :=
  if isHighSurrogate u then
    match rest with
    | '\\' :: 'u' :: after =>
      match readUnit? after with
      | some (v, after) =>
        if isLowSurrogate v then
          (some (Char.ofNat (0x10000 + (u - 0xD800) * 0x400 + (v - 0xDC00))), after)
        else (none, rest)
      | none => (none, rest)
    | _ => (none, rest)
  else if isLowSurrogate u then (none, rest)
  else (some (Char.ofNat u), rest)

/-- One character of a string, and the rest. -/
def readPiece? (c : Char) (rest : List Char) : Option (Piece × List Char) :=
  if c = '\\' then
    match rest with
    | 'u' :: rest => (readUnit? rest).map fun (u, rest) => readEscapedUnit u rest
    | e :: rest => (shortEscape? e).map fun ch => (some ch, rest)
    | [] => none
  else if c.toNat < 0x20 then none
  else some (some c, rest)

/-- The pieces up to the closing quote, and what follows it. The first argument bounds the number of
pieces. -/
def readPieces? : Nat → List Char → Option (List Piece × List Char)
  | 0, _ => none
  | _ + 1, [] => none
  | fuel + 1, c :: rest =>
    if c = '"' then some ([], rest)
    else do
      let (p, rest) ← readPiece? c rest
      let (ps, rest) ← readPieces? fuel rest
      return (p :: ps, rest)

/-- The string after an opening quote as a leaf. The first argument bounds the number of pieces. -/
def readString? (fuel : Nat) (cs : List Char) : Option (Leaf × List Char) := do
  let (ps, rest) ← readPieces? fuel cs
  if ps.all Option.isSome then return (.ofText (String.ofList (ps.filterMap id)), rest)
  else return (.ofScalar .unreadable, rest)

/-! ## Values -/

/-- Lists and records may be nested this deeply. -/
def maxDepth : Nat := 127

/-- A number literal as a leaf. -/
def literalLeaf : Number.Literal → Leaf
  | .number n => .ofScalar (.number n)
  | .outOfRange => .ofScalar .unreadable

/-- A list or record at a depth. -/
def bounded (depth : Nat) (t : Tree) : Tree :=
  if depth ≤ maxDepth then t else .leaf (.ofScalar .unreadable)

mutual

/-- The value at the start of a text. The first argument bounds the number of nested calls, the
second one is the depth of a list or record that starts here. -/
def readValue? : Nat → Nat → List Char → Option (Tree × List Char)
  | 0, _, _ => none
  | fuel + 1, depth, cs =>
    match skipSpace cs with
    | [] => none
    | '"' :: rest => (readString? fuel rest).map fun (l, rest) => (.leaf l, rest)
    | '[' :: rest =>
      match skipSpace rest with
      | ']' :: rest => some (bounded depth (.list [] true), rest)
      | rest => (readItems? fuel (depth + 1) rest).map fun (xs, rest) =>
          (bounded depth (.list xs true), rest)
    | '\x7b' :: rest =>
      match skipSpace rest with
      | '\x7d' :: rest => some (bounded depth (.record []), rest)
      | rest => (readEntries? fuel (depth + 1) rest).map fun (es, rest) =>
          (bounded depth (.record es), rest)
    | c :: rest =>
      if c = 'n' then (dropWord? ['u', 'l', 'l'] rest).map (.leaf (.ofScalar .null), ·)
      else if c = 't' then (dropWord? ['r', 'u', 'e'] rest).map (.leaf (.ofScalar (.bool true)), ·)
      else if c = 'f' then
        (dropWord? ['a', 'l', 's', 'e'] rest).map (.leaf (.ofScalar (.bool false)), ·)
      else (Number.readLiteral? (c :: rest)).map fun (l, rest) => (.leaf (literalLeaf l), rest)

/-- The items of a list up to its closing bracket. -/
def readItems? : Nat → Nat → List Char → Option (List Tree × List Char)
  | 0, _, _ => none
  | fuel + 1, depth, cs => do
    let (x, rest) ← readValue? fuel depth cs
    match skipSpace rest with
    | ',' :: rest =>
      let (xs, rest) ← readItems? fuel depth rest
      some (x :: xs, rest)
    | ']' :: rest => some ([x], rest)
    | _ => none

/-- The entries of a record up to its closing brace. -/
def readEntries? : Nat → Nat → List Char → Option (List (Leaf × Tree) × List Char)
  | 0, _, _ => none
  | fuel + 1, depth, cs => do
    match skipSpace cs with
    | '"' :: rest =>
      let (k, rest) ← readString? fuel rest
      match skipSpace rest with
      | ':' :: rest =>
        let (v, rest) ← readValue? fuel depth rest
        match skipSpace rest with
        | ',' :: rest =>
          let (es, rest) ← readEntries? fuel depth rest
          some ((k, v) :: es, rest)
        | '\x7d' :: rest => some ([(k, v)], rest)
        | _ => none
      | _ => none
    | _ => none

end

/-- The tree of a whole text. -/
def readTree? (s : String) : Option Tree := do
  let cs := s.toList
  let (t, rest) ← readValue? (2 * cs.length + 2) 1 cs
  if (skipSpace rest).isEmpty then some t else none

/-- The free-form value of a whole text. -/
def read? (s : String) : Option Json := (readTree? s).bind Tree.toJson?

end ApiLowering.Json
