import ApiLowering.Yaml.Cursor
import ApiLowering.Json.Reader

/-!
# The texts of scalars

Reading plain, quoted and block scalars: which characters belong to them, and how their line breaks
are folded.

## Main definitions

* `Yaml.readPlain?` — a scalar without quotes.
* `Yaml.readQuoted?` — a scalar in single or double quotes.
* `Yaml.readBlock?` — a literal or folded block.
* `Yaml.readTagText?` — the text of a tag.
* `Yaml.Folding` — the blanks and breaks between two pieces of a scalar.
-/

namespace ApiLowering.Yaml

/-! ## Folding -/

/-- What has been passed since the last visible character of a scalar. -/
structure Folding where
  /-- The blanks on the line of that character. -/
  blanks : List Char
  /-- The first line break, if the line has ended. -/
  firstBreak : List Char
  /-- The line breaks after it. -/
  otherBreaks : List Char
  /-- Whether the line has ended. -/
  broken : Bool

namespace Folding

/-- Nothing has been passed. -/
def none : Folding := ⟨[], [], [], false⟩

/-- What the passed characters amount to: a single line break becomes a space, further ones stay. -/
def text (f : Folding) : List Char :=
  if !f.broken then f.blanks
  else if f.firstBreak == ['\n'] then
    if f.otherBreaks.isEmpty then [' '] else f.otherBreaks
  else f.firstBreak ++ f.otherBreaks

/-- One more line break. -/
def addBreak (f : Folding) (b : List Char) : Folding :=
  if f.broken then { f with otherBreaks := f.otherBreaks ++ b }
  else { f with blanks := [], firstBreak := b, broken := true }

/-- One more blank; at the start of a line it does not count. -/
def addBlank (f : Folding) (c : Char) : Folding :=
  if f.broken then f else { f with blanks := f.blanks ++ [c] }

end Folding

/-- Passes blanks and line breaks. A tab at the start of a line is refused while the column is below
`indent`. The first argument bounds the number of steps. -/
def passBlanks? : Nat → Nat → Folding → Cursor → Option (Folding × Cursor)
  | 0, _, f, c => some (f, c)
  | fuel + 1, indent, f, c =>
    match c.rest with
    | [] => some (f, c)
    | ch :: _ =>
      if isBlank ch then
        if f.broken && c.column < indent && ch == '\t' then none
        else passBlanks? fuel indent (f.addBlank ch) c.skip
      else if isBreak ch then
        let (b, after) := c.readBreak
        passBlanks? fuel indent (f.addBreak b) after
      else some (f, c)

/-! ## Plain scalars -/

/-- An indicator of flow collections. -/
def isFlowIndicator (c : Char) : Bool := c == ',' || c == '[' || c == ']' || c == '{' || c == '}'

/-- The characters of a plain scalar up to the next blank, break or end indicator. None at a colon
that may not stand in a flow collection. -/
def plainWord? (inFlow : Bool) : List Char → Option (List Char)
  | [] => some []
  | c :: rest =>
    if isBlank c || isBreak c then some []
    else
      let next := rest.head?
      if inFlow && c == ':' && next.any (fun n => isFlowIndicator n || n == '?') then none
      else if c == ':' && (match next with | none => true | some n => isBlank n || isBreak n) then
        some []
      else if inFlow && isFlowIndicator c then some []
      else (plainWord? inFlow rest).map (c :: ·)

/-- Reads the words of a plain scalar. The result is its text, the place after its last word's
blanks, and whether a line has ended there. -/
def readPlain? (inFlow : Bool) (indent : Nat) :
    Nat → List Char → Folding → Cursor → Option (List Char × Bool × Cursor)
  | 0, text, f, c => some (text, f.broken, c)
  | fuel + 1, text, f, c =>
    if c.atDocumentMarker || c.isAt '#' then some (text, f.broken, c)
    else do
      let word ← plainWord? inFlow c.rest
      let after := c.skipN word.length
      let (text, f) := if word.isEmpty then (text, f) else (text ++ f.text ++ word, Folding.none)
      if after.sees fun ch => isBlank ch || isBreak ch then
        let (f, c) ← passBlanks? c.bound indent f after
        if !inFlow && c.column < indent then some (text, f.broken, c)
        else readPlain? inFlow indent fuel text f c
      else some (text, f.broken, after)

/-! ## Quoted scalars -/

/-- The character of a one-letter escape between double quotes. -/
def namedEscape? (c : Char) : Option Char :=
  (([('0', 0), ('a', 7), ('b', 8), ('t', 9), ('\t', 9), ('n', 10), ('v', 11), ('f', 12), ('r', 13),
    ('e', 27), (' ', 32), ('"', 34), ('/', 47), ('\\', 92), ('N', 0x85), ('_', 0xA0),
    ('L', 0x2028), ('P', 0x2029)] : List (Char × Nat)).find? (·.1 == c)).map fun e => Char.ofNat e.2

/-- The number of hexadecimal digits of an escape. -/
def escapeLength? (c : Char) : Option Nat :=
  if c = 'x' then some 2 else if c = 'u' then some 4 else if c = 'U' then some 8 else none

/-- The character of a number of hexadecimal digits. -/
def hexChar? (digits : List Char) (count : Nat) : Option Char := do
  let values ← digits.mapM Json.hexValue?
  let n := values.foldl (fun acc d => acc * 16 + d) 0
  if digits.length = count ∧ (n < 0xD800 ∨ (0xE000 ≤ n ∧ n ≤ 0x10FFFF)) then some (Char.ofNat n)
  else none

/-- The visible characters of a quoted scalar up to a blank, a break, the closing quote or an
escaped line break; the last component says whether it was an escaped line break. -/
def quotedWord? (single : Bool) : Nat → Cursor → Option (List Char × Bool × Cursor)
  | 0, c => some ([], false, c)
  | fuel + 1, c =>
    match c.rest with
    | [] => some ([], false, c)
    | ch :: rest =>
      if isBlank ch || isBreak ch then some ([], false, c)
      else if single then
        if ch == '\'' then
          if rest.head? == some '\'' then
            (quotedWord? single fuel (c.skipN 2)).map fun (w, b, c) => ('\'' :: w, b, c)
          else some ([], false, c)
        else (quotedWord? single fuel c.skip).map fun (w, b, c) => (ch :: w, b, c)
      else if ch == '"' then some ([], false, c)
      else if ch == '\\' then
        match rest with
        | [] => none
        | e :: digits =>
          if isBreak e then some ([], true, c.skip.skipLine)
          else match namedEscape? e with
            | some x => (quotedWord? single fuel (c.skipN 2)).map fun (w, b, c) => (x :: w, b, c)
            | none => do
              let count ← escapeLength? e
              let x ← hexChar? (digits.take count) count
              let (w, b, c) ← quotedWord? single fuel (c.skipN (2 + count))
              some (x :: w, b, c)
      else (quotedWord? single fuel c.skip).map fun (w, b, c) => (ch :: w, b, c)

/-- Reads a quoted scalar after its opening quote; the result ends after the closing one. -/
def readQuoted? (single : Bool) : Nat → List Char → Cursor → Option (List Char × Cursor)
  | 0, _, _ => none
  | fuel + 1, text, c =>
    if c.atDocumentMarker || c.atEnd then none
    else do
      let (word, escapedBreak, c) ← quotedWord? single c.bound c
      let text := text ++ word
      if c.isAt (if single then '\'' else '"') then some (text, c.skip)
      else
        let (f, c) ← passBlanks? c.bound 0 ⟨[], [], [], escapedBreak⟩ c
        readQuoted? single fuel (text ++ f.text) c

/-! ## Tags -/

/-- A character of a tag; a tag in angle brackets may also hold a comma and square brackets. -/
def isTagChar (bracketed : Bool) (c : Char) : Bool :=
  isNameChar c || [';', '/', '?', ':', '@', '&', '=', '+', '$', '.', '!', '~', '*', '\'', '(',
    ')'].contains c || (bracketed && [',', '[', ']'].contains c)

/-- An octet: a percent sign and two hexadecimal digits. -/
def readOctet? : List Char → Option (Nat × List Char)
  | '%' :: a :: b :: rest => do return (16 * (← Json.hexValue? a) + (← Json.hexValue? b), rest)
  | _ => none

/-- The bits of octets that continue a character. -/
def readTrailingOctets? : Nat → Nat → List Char → Option (Nat × List Char)
  | 0, n, cs => some (n, cs)
  | count + 1, n, cs => do
    let (octet, rest) ← readOctet? cs
    if octet / 64 = 2 then readTrailingOctets? count (n * 64 + octet % 64) rest else none

/-- A character by its octets. Octets of no character make the replacement character. -/
def readOctets? (cs : List Char) : Option (Char × List Char) := do
  let (octet, rest) ← readOctet? cs
  let trailing (count bits least : Nat) : Option (Char × List Char) := do
    let (n, rest) ← readTrailingOctets? count bits rest
    let isValid := least ≤ n ∧ (n < 0xD800 ∨ (0xE000 ≤ n ∧ n ≤ 0x10FFFF))
    some (Char.ofNat (if isValid then n else 0xFFFD), rest)
  if octet < 0x80 then some (Char.ofNat octet, rest)
  else if octet / 32 = 6 then trailing 1 (octet % 32) 0x80
  else if octet / 16 = 14 then trailing 2 (octet % 16) 0x800
  else if octet / 8 = 30 then trailing 3 (octet % 8) 0x10000
  else none

/-- Reads the characters of a tag, with what is left of the text. -/
def readTagChars? (bracketed : Bool) : Nat → List Char → Option (List Char × List Char)
  | 0, cs => some ([], cs)
  | _ + 1, [] => some ([], [])
  | fuel + 1, c :: rest => do
    if c = '%' then
      let (x, rest) ← readOctets? (c :: rest)
      let (xs, rest) ← readTagChars? bracketed fuel rest
      return (x :: xs, rest)
    else if isTagChar bracketed c then
      let (xs, rest) ← readTagChars? bracketed fuel rest
      return (c :: xs, rest)
    else return ([], c :: rest)

/-- Reads the text of a tag, which a null character ends. -/
def readTagText? (bracketed : Bool) (c : Cursor) : Option (List Char × Cursor) := do
  let (text, rest) ← readTagChars? bracketed c.rest.length c.rest
  return (text.takeWhile (·.toNat != 0), c.skipN (c.rest.length - rest.length))

/-! ## Block scalars -/

/-- What happens to the line breaks at the end of a block. -/
inductive Chomping where
  | strip
  | clip
  | keep
deriving DecidableEq

/-- The header of a block: the chomping and an explicit indentation, in either order. -/
def blockHeader? (c : Cursor) : Option (Chomping × Option Nat × Cursor) :=
  let chomping? (c : Cursor) : Option Chomping :=
    if c.isAt '+' then some .keep else if c.isAt '-' then some .strip else none
  let digit? (c : Cursor) : Option Nat :=
    c.rest.head?.bind fun d => if d.isDigit then some (d.toNat - 48) else none
  match chomping? c with
  | some ch =>
    match digit? c.skip with
    | some 0 => none
    | some n => some (ch, some n, c.skip.skip)
    | none => some (ch, none, c.skip)
  | none =>
    match digit? c with
    | some 0 => none
    | some n =>
      match chomping? c.skip with
      | some ch => some (ch, some n, c.skip.skip)
      | none => some (.clip, some n, c.skip)
    | none => some (.clip, none, c)

/-- Passes indentation and empty lines of a block. An unknown indentation is `0`; the last component
of the result is the largest column seen. -/
def passBlockBreaks? :
    Nat → Nat → Nat → List Char → Cursor → Option (List Char × Nat × Cursor)
  | 0, _, widest, breaks, c => some (breaks, widest, c)
  | fuel + 1, indent, widest, breaks, c =>
    let spaces := (c.rest.takeWhile (· == ' ')).length
    let c := c.skipN (if indent = 0 then spaces else min spaces (indent - c.column))
    let widest := max widest c.column
    if (indent = 0 || c.column < indent) && c.isAt '\t' then none
    else if c.sees isBreak then
      let (b, c) := c.readBreak
      passBlockBreaks? fuel indent widest (breaks ++ b) c
    else some (breaks, widest, c)

/-- Reads the lines of a block. `lead` is the last line break and `leadBlank` says whether the line
before it began with a blank. -/
def readBlockLines? (literal : Bool) (indent : Nat) :
    Nat → List Char → List Char → Bool → List Char → Cursor →
      Option (List Char × List Char × List Char × Cursor)
  | 0, text, lead, _, breaks, c => some (text, lead, breaks, c)
  | fuel + 1, text, lead, leadBlank, breaks, c =>
    if c.column == indent && !c.atEnd then do
      let blank := c.sees isBlank
      let fold := !literal && lead == ['\n'] && !leadBlank && !blank
      let join := if fold then (if breaks.isEmpty then [' '] else []) else lead
      let (line, c) := c.takeWhile fun ch => !isBreak ch
      let (lead, c) := c.readBreak
      let (breaks', _, c) ← passBlockBreaks? c.bound indent 0 [] c
      readBlockLines? literal indent fuel (text ++ join ++ breaks ++ line) lead blank breaks' c
    else some (text, lead, breaks, c)

/-- Reads a block after its indicator. `parent` is the indentation of the node that holds it. -/
def readBlock? (literal : Bool) (parent : Int) (c : Cursor) : Option (List Char × Cursor) := do
  let (chomping, explicit, c) ← blockHeader? c
  let c := c.skipWhile isBlank
  let c := if c.isAt '#' then c.skipWhile fun ch => !isBreak ch else c
  if !c.atEnd && !c.sees isBreak then none
  else
    let c := c.skipLine
    let known := match explicit with
      | some n => if 0 ≤ parent then parent.toNat + n else n
      | none => 0
    let (breaks, widest, c) ← passBlockBreaks? c.bound known 0 [] c
    let indent := if known = 0 then max (max widest (parent + 1).toNat) 1 else known
    let (text, lead, breaks, c) ← readBlockLines? literal indent c.bound [] [] false breaks c
    let text := if chomping = .strip then text else text ++ lead
    some (if chomping = .keep then text ++ breaks else text, c)

end ApiLowering.Yaml
