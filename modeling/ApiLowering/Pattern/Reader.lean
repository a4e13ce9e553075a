import ApiLowering.Pattern.Expression
import ApiLowering.Pattern.Property
import ApiLowering.Json.Reader
import ApiLowering.Text.Letters

/-!
# Reading patterns

The notation of patterns: literals, sets in brackets with their operations, escapes, sets by
property, groups, choices, repetitions and flags.

In a verbose pattern blanks and comments may stand between any two characters that belong to
different parts, and also inside numbers.

## Main definitions

* `Expression.read?` — the pattern that a text writes down.
-/

namespace ApiLowering.Pattern

/-! ## Gaps -/

/-- Skips blanks and comments, which a number sign starts and a line feed ends. -/
def skipGaps : (inComment : Bool) → List Char → List Char
  | _, [] => []
  | true, c :: rest => skipGaps (c != '\n') rest
  | false, c :: rest =>
    if Text.isBlank c then skipGaps false rest
    else if c = '#' then skipGaps true rest
    else c :: rest

/-- Skips blanks and comments in a verbose pattern. -/
def skip (verbose : Bool) (cs : List Char) : List Char := if verbose then skipGaps false cs else cs

/-! ## Numbers -/

/-- The character of a number. -/
def charOf? (n : Nat) : Option Char :=
  if n < 0xD800 ∨ (0xE000 ≤ n ∧ n ≤ 0x10FFFF) then some (Char.ofNat n) else none

/-- The character whose number is written in hexadecimal digits. -/
def charOfHex? (cs : List Char) : Option Char := do
  let ds ← cs.mapM Json.hexValue?
  if ds.isEmpty then none else charOf? (ds.foldl (fun n d => n * 16 + d) 0)

/-- So many hexadecimal digits. -/
def readHexDigits? (verbose : Bool) : Nat → List Char → Option (List Char × List Char)
  | 0, cs => some ([], cs)
  | _ + 1, [] => none
  | n + 1, c :: rest => do
    let _ ← Json.hexValue? c
    let (ds, rest) ← readHexDigits? verbose n (skip verbose rest)
    some (c :: ds, rest)

/-- The hexadecimal digits up to a closing brace. -/
def readBracedDigits? (verbose : Bool) : Nat → List Char → Option (List Char × List Char)
  | 0, _ => none
  | _ + 1, [] => none
  | fuel + 1, c :: rest =>
    if c = '\x7d' then some ([], rest)
    else do
      let _ ← Json.hexValue? c
      let (ds, rest) ← readBracedDigits? verbose fuel (skip verbose rest)
      some (c :: ds, rest)

/-- A character by its number: so many digits, or any number of digits between braces. The last
component says whether there were no braces. -/
def readHex? (verbose : Bool) (count : Nat) (cs : List Char) : Option (Char × List Char × Bool) :=
  match skip verbose cs with
  | '\x7b' :: rest => do
    let (ds, rest) ← readBracedDigits? verbose (rest.length + 1) (skip verbose rest)
    return (← charOfHex? ds, rest, false)
  | cs => do
    let (ds, rest) ← readHexDigits? verbose count cs
    return (← charOfHex? ds, rest, true)

/-- The decimal digits at the start. -/
def readDecimalDigits (verbose : Bool) : Nat → List Char → List Char × List Char
  | 0, cs => ([], cs)
  | _ + 1, [] => ([], [])
  | fuel + 1, c :: rest =>
    if c.isDigit then
      let (ds, rest) := readDecimalDigits verbose fuel (skip verbose rest)
      (c :: ds, rest)
    else ([], c :: rest)

/-- A decimal count of 32 bits between blanks. -/
def readCount? (verbose : Bool) (cs : List Char) : Option (Nat × List Char) :=
  let (ds, rest) := readDecimalDigits verbose cs.length (cs.dropWhile Text.isBlank)
  let n := ds.foldl (fun n d => n * 10 + (d.toNat - 48)) 0
  if ds.isEmpty ∨ Nat.pow 2 32 ≤ n then none
  else some (n, skip verbose (rest.dropWhile Text.isBlank))

/-- The bounds of a repetition after its opening brace. -/
def readBounds? (verbose : Bool) (cs : List Char) : Option (Nat × Option Nat × List Char) := do
  let (least, rest) ← readCount? verbose (skip verbose cs)
  match rest with
  | '\x7d' :: rest => some (least, some least, rest)
  | ',' :: rest =>
    match skip verbose rest with
    | '\x7d' :: rest => some (least, none, rest)
    | rest =>
      let (most, rest) ← readCount? verbose rest
      match rest with
      | '\x7d' :: rest => if least ≤ most then some (least, some most, rest) else none
      | _ => none
  | _ => none

/-! ## Escapes -/

/-- Whether an escaped character stands for itself. -/
def isEscapable (c : Char) : Bool := c.toNat < 128 && !c.isAlphanum && c != '<' && c != '>'

/-- An escape stands for a set of characters or for an anchor. -/
inductive Escape where
  | set (s : SetExpression)
  | anchor (a : Anchor)

/-- The edge of words that a name between braces stands for. -/
def wordEdgeOf? (name : List Char) : Option WordEdge :=
  match String.ofList name with
  | "start" => some .start
  | "end" => some .finish
  | "start-half" => some .halfStart
  | "end-half" => some .halfFinish
  | _ => none

/-- The letters and hyphens at the start. -/
def readEdgeName (verbose : Bool) : Nat → List Char → List Char × List Char
  | 0, cs => ([], cs)
  | _ + 1, [] => ([], [])
  | fuel + 1, c :: rest =>
    if c.isAlpha || c == '-' then
      let (cs, rest) := readEdgeName verbose fuel (skip verbose rest)
      (c :: cs, rest)
    else ([], c :: rest)

/-- The anchor of an escaped small b: a brace and a letter or hyphen start a name, and any other
brace is the start of a repetition. -/
def readWordEdge? (verbose : Bool) (cs : List Char) : Option (WordEdge × List Char) :=
  match cs with
  | '\x7b' :: inner =>
    match readEdgeName verbose cs.length (skip verbose inner) with
    | ([], []) => none
    | ([], _) => some (.edge, cs)
    | (name, rest) =>
      match rest with
      | '\x7d' :: rest => (wordEdgeOf? name).map fun kind => (kind, rest)
      | _ => none
  | cs => some (.edge, cs)

/-- The characters up to a closing brace. -/
def readBraced? (verbose : Bool) : Nat → List Char → Option (List Char × List Char)
  | 0, _ => none
  | _ + 1, [] => none
  | fuel + 1, c :: rest =>
    if c = '\x7d' then some ([], rest)
    else do
      let (cs, rest) ← readBraced? verbose fuel (skip verbose rest)
      some (c :: cs, rest)

/-- What stands before and after the first occurrence of a sign. -/
def splitAtSign? (sign cs : List Char) : Option (List Char × List Char) :=
  (Text.afterFirst? sign cs).map fun after =>
    (cs.take (cs.length - sign.length - after.length), after)

/-- The set between braces: a property, or a property, a sign and a value. The last component says
whether the sign asks for all other characters. -/
def propertySet? (text : List Char) : Option (CharSet × Bool) :=
  let valued (isNegated : Bool) (parts : List Char × List Char) : Option (CharSet × Bool) :=
    (CharSet.ofPropertyValue? (CharSet.propertyName parts.1) (CharSet.propertyName parts.2)).map
      fun set => (set, isNegated)
  match splitAtSign? ['!', '='] text, splitAtSign? [':'] text, splitAtSign? ['='] text with
  | some parts, _, _ => valued true parts
  | none, some parts, _ => valued false parts
  | none, none, some parts => valued false parts
  | none, none, none =>
    (CharSet.ofProperty? (CharSet.propertyName text)).map fun set => (set, false)

/-- A set by property after the letter of its escape: between braces, or a name of one letter. -/
def readProperty? (verbose negated : Bool) (cs : List Char) :
    Option (SetExpression × List Char) :=
  match skip verbose cs with
  | '\x7b' :: rest => do
    let (text, rest) ← readBraced? verbose (rest.length + 1) (skip verbose rest)
    let (set, isNegated) ← propertySet? text
    some (.property set (negated != isNegated), rest)
  | c :: rest => do
    let set ← CharSet.ofProperty? (CharSet.propertyName [c])
    some (.property set negated, rest)
  | [] => none

/-- An escape after its backslash. -/
def readEscape? (verbose : Bool) (cs : List Char) : Option (Escape × List Char) :=
  let char (c : Char) (rest : List Char) : Option (Escape × List Char) :=
    some (.set (.char c false), rest)
  let hex (count : Nat) (rest : List Char) : Option (Escape × List Char) := do
    let (c, rest, isFixed) ← readHex? verbose count rest
    some (.set (.char c (isFixed && count == 2)), rest)
  let property (negated : Bool) (rest : List Char) : Option (Escape × List Char) :=
    (readProperty? verbose negated rest).map fun (set, rest) => (.set set, rest)
  match cs with
  | 'd' :: rest => some (.set (.shorthand .digit false), rest)
  | 'D' :: rest => some (.set (.shorthand .digit true), rest)
  | 's' :: rest => some (.set (.shorthand .space false), rest)
  | 'S' :: rest => some (.set (.shorthand .space true), rest)
  | 'w' :: rest => some (.set (.shorthand .word false), rest)
  | 'W' :: rest => some (.set (.shorthand .word true), rest)
  | 'p' :: rest => property false rest
  | 'P' :: rest => property true rest
  | 'n' :: rest => char '\n' rest
  | 't' :: rest => char '\t' rest
  | 'r' :: rest => char '\r' rest
  | 'f' :: rest => char (Char.ofNat 12) rest
  | 'v' :: rest => char (Char.ofNat 11) rest
  | 'a' :: rest => char (Char.ofNat 7) rest
  | 'x' :: rest => hex 2 rest
  | 'u' :: rest => hex 4 rest
  | 'U' :: rest => hex 8 rest
  | 'A' :: rest => some (.anchor .textStart, rest)
  | 'z' :: rest => some (.anchor .textFinish, rest)
  | 'B' :: rest => some (.anchor (.word .inside), rest)
  | '<' :: rest => some (.anchor (.word .start), rest)
  | '>' :: rest => some (.anchor (.word .finish), rest)
  | 'b' :: rest => do
    let (kind, rest) ← readWordEdge? verbose rest
    some (.anchor (.word kind), rest)
  | c :: rest => if isEscapable c then char c rest else none
  | [] => none

/-! ## Sets in brackets -/

/-- A named set after its opening bracket. -/
def readNamedSet? (cs : List Char) : Option (SetExpression × List Char) :=
  match cs with
  | ':' :: cs => do
    let (negated, cs) := match cs with
      | '^' :: r => (true, r)
      | r => (false, r)
    let set ← CharSet.ofName? (String.ofList (cs.takeWhile (· != ':')))
    match cs.dropWhile (· != ':') with
    | ':' :: ']' :: rest => some (.named set negated, rest)
    | _ => none
  | _ => none

/-- A character or an escape in brackets. -/
def readSetItem? (verbose : Bool) (cs : List Char) : Option (SetExpression × List Char) :=
  match cs with
  | '\\' :: rest =>
    match readEscape? verbose rest with
    | some (.set s, rest) => some (s, rest)
    | _ => none
  | c :: rest => some (.char c false, rest)
  | [] => none

/-- An item in brackets, or a range of two. A hyphen makes no range before another hyphen or the
closing bracket. -/
def readSetRange? (verbose : Bool) (cs : List Char) : Option (SetExpression × List Char) := do
  let (item, rest) ← readSetItem? verbose cs
  match skip verbose rest with
  | [] => none
  | '-' :: after =>
    match skip verbose after with
    | ']' :: _ => some (item, '-' :: after)
    | '-' :: _ => some (item, '-' :: after)
    | after =>
      let (upper, after) ← readSetItem? verbose after
      match item, upper with
      | .char first _, .char last _ =>
        if first ≤ last then some (.range first last, after) else none
      | _, _ => none
  | rest => some (item, rest)

/-- The hyphens at the start. -/
def readHyphens (verbose : Bool) : Nat → List Char → Nat × List Char
  | 0, cs => (0, cs)
  | fuel + 1, cs =>
    match cs with
    | '-' :: rest =>
      let (n, rest) := readHyphens verbose fuel (skip verbose rest)
      (n + 1, rest)
    | cs => (0, cs)

/-- The start of a bracket: whether it is negated and the literals that need no escape there, which
are hyphens, or else a closing bracket. -/
def readSetStart (verbose : Bool) (cs : List Char) : Bool × List SetExpression × List Char :=
  let cs := skip verbose cs
  let (negated, cs) := match cs with
    | '^' :: r => (true, skip verbose r)
    | r => (false, r)
  let (hyphens, cs) := readHyphens verbose cs.length cs
  let lead := List.replicate hyphens (.char '-' false)
  match lead, cs with
  | [], ']' :: r => (negated, [.char ']' false], r)
  | lead, cs => (negated, lead, cs)

/-- The set before the place that was reached: the last operation takes the items after it as its
second set. The items are kept in reverse. -/
def closeSet (operation : Option (SetExpression → SetExpression)) (items : List SetExpression) :
    SetExpression :=
  let set := SetExpression.ofItems items.reverse
  match operation with
  | some f => f set
  | none => set

/-- The items and operations of a set up to its closing bracket. The operations bind equally, the
first ones first. -/
def readSetBody? (verbose : Bool) :
    Nat → Option (SetExpression → SetExpression) → List SetExpression → List Char →
      Option (SetExpression × List Char)
  | 0, _, _, _ => none
  | fuel + 1, operation, items, cs =>
    let next (f : SetExpression → SetExpression → SetExpression) (rest : List Char) :
        Option (SetExpression × List Char) :=
      readSetBody? verbose fuel (some (f (closeSet operation items))) [] rest
    match skip verbose cs with
    | [] => none
    | ']' :: rest => some (closeSet operation items, rest)
    | '&' :: '&' :: rest => next .both rest
    | '-' :: '-' :: rest => next .without rest
    | '~' :: '~' :: rest => next .either rest
    | '[' :: rest =>
      match readNamedSet? rest with
      | some (set, rest) => readSetBody? verbose fuel operation (set :: items) rest
      | none => do
        let (negated, lead, rest) := readSetStart verbose rest
        let (inner, rest) ← readSetBody? verbose fuel none lead rest
        readSetBody? verbose fuel operation (.bracket negated inner :: items) rest
    | cs => do
      let (item, rest) ← readSetRange? verbose cs
      readSetBody? verbose fuel operation (item :: items) rest

/-- A set after its opening bracket. -/
def readSet? (verbose : Bool) (cs : List Char) : Option (SetExpression × List Char) := do
  let (negated, lead, rest) := readSetStart verbose cs
  let (inner, rest) ← readSetBody? verbose (2 * cs.length + 2) none lead rest
  some (.bracket negated inner, rest)

/-! ## Groups -/

/-- The flag of a letter. -/
def flagOf? : Char → Option Flag
  | 'i' => some .ignoreCase
  | 'm' => some .lines
  | 's' => some .dotAll
  | 'U' => some .lazyFirst
  | 'u' => some .unicode
  | 'R' => some .carriageReturns
  | 'x' => some .verbose
  | _ => none

/-- The flags after a question mark, each named once and with at most one hyphen, which is not the
last of them. The second component says whether a group follows them. -/
def readFlags? : (negated afterHyphen : Bool) → FlagChange → List Char →
    Option (FlagChange × Bool × List Char)
  | _, _, _, [] => none
  | negated, afterHyphen, change, c :: rest =>
    if c = ')' ∨ c = ':' then if afterHyphen then none else some (change, c == ':', rest)
    else if c = '-' then if negated then none else readFlags? true true change rest
    else do
      let flag ← flagOf? c
      if flag ∈ change.on ∨ flag ∈ change.off then none
      else if negated then
        readFlags? negated false { change with off := change.off ++ [flag] } rest
      else readFlags? negated false { change with on := change.on ++ [flag] } rest

/-- The name of a group up to its closing angle bracket. -/
def readGroupName? (cs : List Char) : Option (List Char × List Char) :=
  let name := cs.takeWhile (· != '>')
  let isStart (c : Char) : Bool := c == '_' || Text.isAlphabetic c
  let isRest (c : Char) : Bool :=
    isStart c || Text.isNumeric c || c == '.' || c == '[' || c == ']'
  match name, cs.dropWhile (· != '>') with
  | c :: more, _ :: rest => if isStart c && more.all isRest then some (name, rest) else none
  | _, _ => none

/-- What is known at a place in a pattern: whether gaps are skipped, and the names of the groups
so far, which have to differ. -/
structure ReaderState where
  verbose : Bool := false
  names : List (List Char) := []

mutual

/-- The patterns between bars up to a closing parenthesis or the end. -/
def readChoice? : Nat → ReaderState → List Char →
    Option (List Expression × ReaderState × List Char)
  | 0, _, _ => none
  | fuel + 1, state, cs => do
    let (part, state, rest) ← readSequence? fuel state [] cs
    match rest with
    | '|' :: rest =>
      let (parts, state, rest) ← readChoice? fuel state rest
      some (part :: parts, state, rest)
    | rest => some ([part], state, rest)

/-- A sequence up to a bar, a closing parenthesis or the end. Its parts are kept in reverse. -/
def readSequence? : Nat → ReaderState → List Expression → List Char →
    Option (Expression × ReaderState × List Char)
  | 0, _, _, _ => none
  | fuel + 1, state, parts, cs =>
    let verbose := state.verbose
    let next (e : Expression) (rest : List Char) :
        Option (Expression × ReaderState × List Char) :=
      readSequence? fuel state (e :: parts) rest
    let repeated (least : Nat) (most : Option Nat) (rest : List Char) :
        Option (Expression × ReaderState × List Char) :=
      match parts with
      | e :: before =>
        if e.isRepeatable then
          let rest := if rest.head? == some '?' then rest.drop 1 else rest
          readSequence? fuel state (.repetition e least most :: before) rest
        else none
      | [] => none
    let group (isRemembered : Bool) (change : FlagChange) (names : List (List Char))
        (rest : List Char) : Option (Expression × ReaderState × List Char) := do
      let inner : ReaderState := ⟨change.state .verbose verbose, names⟩
      let (e, names, rest) ← readGroup? fuel inner rest
      readSequence? fuel { state with names } (.group isRemembered change e :: parts) rest
    let named (rest : List Char) : Option (Expression × ReaderState × List Char) := do
      let (name, rest) ← readGroupName? rest
      if name ∈ state.names then none else group true {} (name :: state.names) rest
    match skip verbose cs with
    | [] => some (.ofSequence parts.reverse, state, [])
    | '|' :: rest => some (.ofSequence parts.reverse, state, '|' :: rest)
    | ')' :: rest => some (.ofSequence parts.reverse, state, ')' :: rest)
    | '(' :: rest =>
      match skip verbose rest with
      | '?' :: 'P' :: '<' :: rest => named rest
      | '?' :: '<' :: rest => named rest
      | '?' :: rest => do
        let (change, isGroup, rest) ← readFlags? false false {} rest
        if isGroup then group false change state.names rest
        else if change.isEmpty then none
        else
          let state := { state with verbose := change.state .verbose verbose }
          readSequence? fuel state (.flags change :: parts) rest
      | rest => group true {} state.names rest
    | '[' :: rest => do
      let (s, rest) ← readSet? verbose rest
      next (.set s) rest
    | '*' :: rest => repeated 0 none rest
    | '+' :: rest => repeated 1 none rest
    | '?' :: rest => repeated 0 (some 1) rest
    | '\x7b' :: rest => do
      let (least, most, rest) ← readBounds? verbose rest
      repeated least most (skip verbose rest)
    | '.' :: rest => next .dot rest
    | '^' :: rest => next (.anchor .lineStart) rest
    | '$' :: rest => next (.anchor .lineFinish) rest
    | '\\' :: rest => do
      let (escape, rest) ← readEscape? verbose rest
      match escape with
      | .set s => next (.set s) rest
      | .anchor a => next (.anchor a) rest
    | c :: rest => next (.set (.char c false)) rest

/-- A group after its opening parenthesis. -/
def readGroup? : Nat → ReaderState → List Char →
    Option (Expression × List (List Char) × List Char)
  | 0, _, _ => none
  | fuel + 1, state, cs => do
    let (parts, state, rest) ← readChoice? fuel state cs
    match rest with
    | ')' :: rest => some (.ofChoice parts, state.names, rest)
    | _ => none

end

/-- The pattern that a text writes down; none if it writes none down. -/
def Expression.read? (s : String) : Option Expression := do
  let cs := s.toList
  let (parts, _, rest) ← readChoice? (4 * cs.length + 4) {} cs
  if rest.isEmpty then some (.ofChoice parts) else none

end ApiLowering.Pattern
