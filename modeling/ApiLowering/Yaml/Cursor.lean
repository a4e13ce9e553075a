/-!
# Places in a text

A cursor is a place in a YAML text: what is left of it, with the line and the column that the rules
of indentation refer to.

## Main definitions

* `Yaml.Cursor` — a place in a text.
* `Yaml.Cursor.skip`, `Yaml.Cursor.skipLine` — one character on, one line break on.
* `Yaml.Cursor.atDocumentMarker` — whether a document starts or ends here.
-/

namespace ApiLowering.Yaml

/-! ## Characters -/

/-- A line break. -/
def isBreak (c : Char) : Bool :=
  c == '\n' || c == '\r' || c.toNat == 0x85 || c.toNat == 0x2028 || c.toNat == 0x2029

/-- A space or a tab. -/
def isBlank (c : Char) : Bool := c == ' ' || c == '\t'

/-- A character of an anchor's name. -/
def isNameChar (c : Char) : Bool := c.isAlphanum || c == '_' || c == '-'

/-- The mark of the order of bytes. -/
def byteOrderMark : Char := Char.ofNat 0xFEFF

/-- A character that may stand in a text at all. -/
def isAllowed (c : Char) : Bool :=
  let n := c.toNat
  n == 0x09 || n == 0x0A || n == 0x0D || (0x20 ≤ n && n ≤ 0x7E) || n == 0x85 ||
    (0xA0 ≤ n && n ≤ 0xD7FF) || (0xE000 ≤ n && n ≤ 0xFFFD) || 0x10000 ≤ n

/-! ## Cursors -/

/-- A place in a text. -/
structure Cursor where
  /-- What is left of the text. -/
  rest : List Char
  /-- The number of lines before this one. -/
  line : Nat
  /-- The number of characters of this line before the place. -/
  column : Nat
  /-- The number of characters before the place. -/
  index : Nat
  /-- A bound for the number of characters of the whole text. -/
  bound : Nat

namespace Cursor

/-- The start of a text. -/
def ofText (s : String) : Cursor :=
  let cs := s.toList
  ⟨cs, 0, 0, 0, cs.length + 1⟩

/-- Whether the text ends here. -/
def atEnd (c : Cursor) : Bool := c.rest.isEmpty

/-- The character `n` places on. -/
def peek (c : Cursor) (n : Nat) : Option Char := c.rest[n]?

/-- Whether a given character stands here. -/
def isAt (c : Cursor) (ch : Char) : Bool := c.rest.head? == some ch

/-- Whether the character here satisfies a test. -/
def sees (c : Cursor) (p : Char → Bool) : Bool := c.rest.head?.any p

/-- Whether a blank, a line break or the end of the text is `n` places on. -/
def blankAt (c : Cursor) (n : Nat) : Bool :=
  match c.peek n with
  | none => true
  | some ch => isBlank ch || isBreak ch

/-- One character on. -/
def skip (c : Cursor) : Cursor :=
  { c with rest := c.rest.drop 1, column := c.column + 1, index := c.index + 1 }

/-- Several characters on. -/
def skipN (c : Cursor) (n : Nat) : Cursor :=
  { c with rest := c.rest.drop n, column := c.column + n, index := c.index + n }

/-- The characters here that satisfy a test, and the place after them. -/
def takeWhile (c : Cursor) (p : Char → Bool) : List Char × Cursor :=
  let cs := c.rest.takeWhile p
  (cs, c.skipN cs.length)

/-- The place after the characters here that satisfy a test. -/
def skipWhile (c : Cursor) (p : Char → Bool) : Cursor := (c.takeWhile p).2

/-- One line break on, and the text of the break; nothing happens elsewhere. -/
def readBreak (c : Cursor) : List Char × Cursor :=
  let next (n : Nat) : Cursor :=
    { c with rest := c.rest.drop n, column := 0, line := c.line + 1, index := c.index + n }
  match c.rest with
  | '\r' :: '\n' :: _ => (['\n'], next 2)
  | ch :: _ =>
    if !isBreak ch then ([], c)
    else if ch.toNat = 0x2028 || ch.toNat = 0x2029 then ([ch], next 1)
    else (['\n'], next 1)
  | [] => ([], c)

/-- One line break on. -/
def skipLine (c : Cursor) : Cursor := c.readBreak.2

/-- Whether three given characters stand alone at the start of a line. -/
def atMarker (c : Cursor) (ch : Char) : Bool :=
  c.column == 0 && c.peek 0 == some ch && c.peek 1 == some ch && c.peek 2 == some ch && c.blankAt 3

/-- Whether a document starts or ends here. -/
def atDocumentMarker (c : Cursor) : Bool := c.atMarker '-' || c.atMarker '.'

end Cursor

end ApiLowering.Yaml
