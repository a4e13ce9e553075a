import ApiLowering.Tree
import ApiLowering.Yaml.Text

/-!
# Tokens

A YAML text as a list of tokens. Indentation becomes opening and closing tokens of block
collections, and a colon after a node turns that node into a key after the fact.

## Main definitions

* `Yaml.Token` — the tokens.
* `Yaml.Lexer` — the state between two tokens.
* `Yaml.Token.ofText?` — the tokens of a text.
-/

namespace ApiLowering.Yaml

/-- A token. -/
inductive Token where
  /-- The version of the notation. -/
  | versionDirective
  | tagDirective (handle : String) (expansion : String)
  | documentStart
  | documentEnd
  | blockSequenceStart
  | blockMappingStart
  | blockEnd
  | flowSequenceStart
  | flowSequenceEnd
  | flowMappingStart
  | flowMappingEnd
  | blockEntry
  | flowEntry
  | key
  | value
  | alias (name : String)
  | anchor (name : String)
  /-- A tag by its handle and the rest; a verbatim tag has no handle. -/
  | tag (handle : String) (suffix : String)
  | scalar (text : String) (style : ScalarStyle)
deriving DecidableEq, Repr

/-- A place where a key may have started. -/
structure KeyCandidate where
  /-- Whether it may still become a key. -/
  possible : Bool
  /-- Whether it has to become one. -/
  required : Bool
  /-- The number of tokens before it. -/
  position : Nat
  /-- Where it stands. -/
  cursor : Cursor

/-- The state between two tokens. -/
structure Lexer where
  /-- The place in the text. -/
  cursor : Cursor
  /-- The tokens so far. -/
  tokens : Array Token
  /-- The number of open flow collections. -/
  flowLevel : Nat
  /-- The column of the innermost block collection, or `-1`. -/
  indent : Int
  /-- The columns of the enclosing block collections. -/
  indents : List Int
  /-- Whether a key may start here. -/
  keyAllowed : Bool
  /-- The key candidates, one for each flow level, the innermost first. -/
  candidates : List KeyCandidate

namespace Lexer

/-! ## Tokens and indentation -/

/-- Appends a token. -/
def emit (s : Lexer) (t : Token) : Lexer := { s with tokens := s.tokens.push t }

/-- Puts a token at a position. -/
def emitAt (s : Lexer) (position : Nat) (t : Token) : Lexer :=
  let before := s.tokens.extract 0 position
  { s with tokens := before.push t ++ s.tokens.extract position s.tokens.size }

/-- Whether the lexer is inside a flow collection. -/
def inFlow (s : Lexer) : Bool := s.flowLevel != 0

/-- Opens a block collection if the column is to the right of the current one. -/
def openBlock (s : Lexer) (column : Nat) (position : Nat) (t : Token) : Lexer :=
  if !s.inFlow && s.indent < column then
    { s with indents := s.indent :: s.indents, indent := column }.emitAt position t
  else s

/-- Closes the block collections to the right of a column. -/
def closeBlocks (s : Lexer) (column : Int) : Lexer :=
  if s.inFlow then s else go s.indents s
where
  /-- Closes collections while there are enclosing columns. -/
  go : List Int → Lexer → Lexer
    | [], s => s
    | outer :: rest, s =>
      if column < s.indent then go rest ({ s with indent := outer, indents := rest }.emit .blockEnd)
      else s

/-! ## Key candidates -/

/-- Drops the candidates that are too far back; none if one of them had to become a key. -/
def dropStale? (s : Lexer) : Option Lexer := do
  let fresh? (k : KeyCandidate) : Option KeyCandidate :=
    if k.possible && (k.cursor.line < s.cursor.line || k.cursor.index + 1024 < s.cursor.index) then
      if k.required then none else some { k with possible := false }
    else some k
  let candidates ← s.candidates.mapM fresh?
  return { s with candidates }

/-- Gives up the innermost candidate; none if it had to become a key. -/
def dropCandidate? (s : Lexer) : Option Lexer :=
  match s.candidates with
  | [] => some s
  | k :: rest =>
    if k.possible && k.required then none
    else some { s with candidates := { k with possible := false } :: rest }

/-- Notes that a key may start here. -/
def noteCandidate? (s : Lexer) : Option Lexer :=
  if s.keyAllowed then do
    let s ← s.dropCandidate?
    let required := !s.inFlow && s.indent == s.cursor.column
    return { s with candidates := ⟨true, required, s.tokens.size, s.cursor⟩ :: s.candidates.drop 1 }
  else some s

/-! ## Single tokens -/

/-- Passes blanks, comments and line breaks before a token. A line may start with a byte order mark,
which takes a column. -/
def passSpace : Nat → Lexer → Lexer
  | 0, s => s
  | fuel + 1, s =>
    let c := s.cursor
    let c := if c.column == 0 && c.isAt byteOrderMark then c.skip else c
    let c := c.skipWhile fun ch => ch == ' ' || (ch == '\t' && (s.inFlow || !s.keyAllowed))
    let c := if c.isAt '#' then c.skipWhile fun ch => !isBreak ch else c
    if c.sees isBreak then
      passSpace fuel { s with cursor := c.skipLine, keyAllowed := s.keyAllowed || !s.inFlow }
    else { s with cursor := c }

/-- A part of a version: up to nine digits. -/
def readVersionPart? (c : Cursor) : Option (Nat × Cursor) :=
  let (ds, c) := c.takeWhile Char.isDigit
  if ds.isEmpty || 9 < ds.length then none else some (Number.digitsValue ds, c)

/-- The version in a directive. Of the first version the editions 1 and 2 are known. -/
def versionDirective? (c : Cursor) : Option (Token × Cursor) := do
  let (major, c) ← readVersionPart? c
  if !c.isAt '.' then none
  let (minor, c) ← readVersionPart? c.skip
  if major = 1 ∧ (minor = 1 ∨ minor = 2) then some (.versionDirective, c) else none

/-- What a directive makes of a handle of tags. The handle is an exclamation mark, or a name between
two of them. -/
def tagDirective? (c : Cursor) : Option (Token × Cursor) := do
  if !c.isAt '!' then none
  let (name, c) := c.skip.takeWhile isNameChar
  let isClosed := c.isAt '!'
  if !isClosed && !name.isEmpty then none
  let handle := if isClosed then '!' :: (name ++ ['!']) else ['!']
  let c := if isClosed then c.skip else c
  if !c.sees isBlank then none
  let (expansion, c) ← readTagText? true (c.skipWhile isBlank)
  if expansion.isEmpty || !c.blankAt 0 then none
  return (.tagDirective (String.ofList handle) (String.ofList expansion), c)

/-- A directive line. -/
def directive? (s : Lexer) : Option Lexer := do
  let s ← (s.closeBlocks (-1)).dropCandidate?
  let (name, c) := s.cursor.skip.takeWhile isNameChar
  if !c.blankAt 0 then none
  let c := c.skipWhile isBlank
  let (token, c) ←
    if name == "YAML".toList then versionDirective? c
    else if name == "TAG".toList then tagDirective? c
    else none
  let c := c.skipWhile isBlank
  let c := if c.isAt '#' then c.skipWhile fun ch => !isBreak ch else c
  if c.atEnd || c.sees isBreak then
    return { s with cursor := c.skipLine, keyAllowed := false }.emit token
  else none

/-- The start or the end of a document. -/
def documentMarker? (s : Lexer) (t : Token) : Option Lexer := do
  let s ← (s.closeBlocks (-1)).dropCandidate?
  return { s with cursor := s.cursor.skipN 3, keyAllowed := false }.emit t

/-- An opening bracket or brace. -/
def flowStart? (s : Lexer) (t : Token) : Option Lexer := do
  let s ← s.noteCandidate?
  let closed : KeyCandidate := ⟨false, false, 0, s.cursor⟩
  return { s with
    candidates := closed :: s.candidates, flowLevel := s.flowLevel + 1, keyAllowed := true
    cursor := s.cursor.skip }.emit t

/-- A closing bracket or brace. -/
def flowEnd? (s : Lexer) (t : Token) : Option Lexer := do
  let s ← s.dropCandidate?
  let s := if s.inFlow then
      { s with flowLevel := s.flowLevel - 1, candidates := s.candidates.drop 1 }
    else s
  return { s with keyAllowed := false, cursor := s.cursor.skip }.emit t

/-- A comma between the entries of a flow collection. -/
def flowEntry? (s : Lexer) : Option Lexer := do
  let s ← s.dropCandidate?
  return { s with keyAllowed := true, cursor := s.cursor.skip }.emit .flowEntry

/-- The dash of a sequence entry. -/
def blockEntry? (s : Lexer) : Option Lexer := do
  if !s.inFlow && !s.keyAllowed then none
  let s := s.openBlock s.cursor.column s.tokens.size .blockSequenceStart
  let s ← s.dropCandidate?
  return { s with keyAllowed := true, cursor := s.cursor.skip }.emit .blockEntry

/-- The question mark of an explicit key. -/
def explicitKey? (s : Lexer) : Option Lexer := do
  if !s.inFlow && !s.keyAllowed then none
  let s := s.openBlock s.cursor.column s.tokens.size .blockMappingStart
  let s ← s.dropCandidate?
  return { s with keyAllowed := !s.inFlow, cursor := s.cursor.skip }.emit .key

/-- The colon before a value. -/
def value? (s : Lexer) : Option Lexer :=
  let finish (s : Lexer) : Lexer := { s with cursor := s.cursor.skip }.emit .value
  match s.candidates with
  | k :: rest =>
    if k.possible then
      let s := s.emitAt k.position .key
      let s := s.openBlock k.cursor.column k.position .blockMappingStart
      let candidates := { k with possible := false } :: rest
      some (finish { s with candidates, keyAllowed := false })
    else if !s.inFlow && !s.keyAllowed then none
    else
      let s := s.openBlock s.cursor.column s.tokens.size .blockMappingStart
      some (finish { s with keyAllowed := !s.inFlow })
  | [] => none

/-- An anchor or an alias. -/
def anchor? (s : Lexer) (mk : String → Token) : Option Lexer := do
  let s ← s.noteCandidate?
  let (name, c) := s.cursor.skip.takeWhile isNameChar
  let ended := c.blankAt 0 ||
    c.sees fun ch => ['?', ':', ',', ']', '\x7d', '%', '@', '\x60'].contains ch
  if name.isEmpty || !ended then none
  else return { s with cursor := c, keyAllowed := false }.emit (mk (String.ofList name))

/-- A tag. A lone exclamation mark is a tag by itself. -/
def tag? (s : Lexer) : Option Lexer := do
  let s ← s.noteCandidate?
  let c := s.cursor.skip
  let (t, c) ←
    if c.isAt '<' then do
      let (uri, c) ← readTagText? true c.skip
      if uri.isEmpty || !c.isAt '>' then none
      else some (Token.tag "" (String.ofList uri), c.skip)
    else
      let (name, after) := c.takeWhile isNameChar
      if after.isAt '!' then do
        let (suffix, c) ← readTagText? false after.skip
        if suffix.isEmpty then none
        else some (Token.tag (String.ofList ('!' :: (name ++ ['!']))) (String.ofList suffix), c)
      else do
        let (suffix, c) ← readTagText? false c
        if suffix.isEmpty then some (Token.tag "" "!", c)
        else some (Token.tag "!" (String.ofList suffix), c)
  if c.blankAt 0 || (s.inFlow && c.isAt ',') then
    return { s with cursor := c, keyAllowed := false }.emit t
  else none

/-- A literal or folded block. -/
def block? (s : Lexer) (literal : Bool) : Option Lexer := do
  let s ← s.dropCandidate?
  let (text, c) ← readBlock? literal s.indent s.cursor.skip
  let style := if literal then ScalarStyle.literal else .quoted
  return { s with cursor := c, keyAllowed := true }.emit (.scalar (String.ofList text) style)

/-- A quoted scalar. -/
def quoted? (s : Lexer) (single : Bool) : Option Lexer := do
  let s ← s.noteCandidate?
  let (text, c) ← readQuoted? single s.cursor.bound [] s.cursor.skip
  return { s with cursor := c, keyAllowed := false }.emit (.scalar (String.ofList text) .quoted)

/-- A plain scalar. -/
def plain? (s : Lexer) : Option Lexer := do
  let s ← s.noteCandidate?
  let (text, broken, c) ←
    readPlain? s.inFlow (s.indent + 1).toNat s.cursor.bound [] Folding.none s.cursor
  return { s with cursor := c, keyAllowed := broken }.emit (.scalar (String.ofList text) .plain)

/-- An indicator: a plain scalar does not start with one. -/
def isIndicator (c : Char) : Bool :=
  ['-', '?', ':', ',', '[', ']', '\x7b', '\x7d', '#', '&', '*', '!', '|', '>', '\'', '"', '%', '@',
    '\x60'].contains c

/-- The next token, by the character at the cursor. -/
def step? (s : Lexer) (ch : Char) : Option Lexer :=
  let c := s.cursor
  let blankNext := c.blankAt 1
  if c.column == 0 && ch == '%' then s.directive?
  else if c.atMarker '-' then s.documentMarker? .documentStart
  else if c.atMarker '.' then s.documentMarker? .documentEnd
  else if ch == '[' then s.flowStart? .flowSequenceStart
  else if ch == '\x7b' then s.flowStart? .flowMappingStart
  else if ch == ']' then s.flowEnd? .flowSequenceEnd
  else if ch == '\x7d' then s.flowEnd? .flowMappingEnd
  else if ch == ',' then s.flowEntry?
  else if ch == '-' && blankNext then s.blockEntry?
  else if ch == '?' && (s.inFlow || blankNext) then s.explicitKey?
  else if ch == ':' && (s.inFlow || blankNext) then s.value?
  else if ch == '*' then s.anchor? .alias
  else if ch == '&' then s.anchor? .anchor
  else if ch == '!' then s.tag?
  else if ch == '|' && !s.inFlow then s.block? true
  else if ch == '>' && !s.inFlow then s.block? false
  else if ch == '\'' then s.quoted? true
  else if ch == '"' then s.quoted? false
  else if !(isIndicator ch || isBlank ch || isBreak ch) || (ch == '-' && !blankNext) ||
      (!s.inFlow && (ch == '?' || ch == ':') && !blankNext) then s.plain?
  else none

/-- All tokens from here on. -/
def run? : Nat → Lexer → Option (Array Token)
  | 0, _ => none
  | fuel + 1, s => do
    let s := s.passSpace s.cursor.bound
    let s ← s.dropStale?
    let s := s.closeBlocks s.cursor.column
    match s.cursor.rest.head? with
    | none =>
      let s ← (s.closeBlocks (-1)).dropCandidate?
      return s.tokens
    | some ch =>
      let s ← s.step? ch
      run? fuel s

end Lexer

/-- The tokens of a text. -/
def Token.ofText? (s : String) : Option (Array Token) :=
  let c := Cursor.ofText s
  if c.rest.all isAllowed then
    let start : KeyCandidate := ⟨false, false, 0, c⟩
    Lexer.run? (c.bound + 1) ⟨c, #[], 0, -1, [], true, [start]⟩
  else none

end ApiLowering.Yaml
