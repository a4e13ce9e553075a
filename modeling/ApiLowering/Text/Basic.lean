/-!
# Pieces of text

Cutting, trimming and replacing on lists of characters, and their forms on texts.

## Main definitions

* `Text.splitWhere` — the pieces between the characters that satisfy a test, empty ones included.
* `Text.dropTrailing`, `Text.trimBlanks` — trimming at the ends.
* `Text.dropPieces?` — what is left of a text without its first pieces.
* `Text.replace` — replaces every occurrence of a text, from left to right.
* `Text.escape` — the text between double quotes of a string literal.

## Main results

* `Text.splitWhere_ne_nil` — a text has at least one piece.
* `Text.escape_append` — escaping works character by character.
-/

namespace ApiLowering.Text

/-! ## Blanks -/

/-- Whether a character is white space. -/
def isBlank (c : Char) : Bool :=
  let n := c.toNat
  (9 ≤ n && n ≤ 13) || n == 0x20 || n == 0x85 || n == 0xA0 || n == 0x1680 ||
    (0x2000 ≤ n && n ≤ 0x200A) || n == 0x2028 || n == 0x2029 || n == 0x202F || n == 0x205F ||
    n == 0x3000

/-- Removes the characters at the end that satisfy a test. -/
def dropTrailing (p : Char → Bool) (cs : List Char) : List Char :=
  (cs.reverse.dropWhile p).reverse

/-- The text without the characters at the start that satisfy a test. -/
def trimStartWhere (p : Char → Bool) (s : String) : String := String.ofList (s.toList.dropWhile p)

/-- The text without the characters at the end that satisfy a test. -/
def trimEndWhere (p : Char → Bool) (s : String) : String := String.ofList (dropTrailing p s.toList)

/-- The text without white space at its ends. -/
def trimBlanks (s : String) : String :=
  String.ofList (dropTrailing isBlank (s.toList.dropWhile isBlank))

/-! ## Cutting -/

/-- The pieces between the characters that satisfy a test. There is one more piece than such
characters. -/
def splitWhere (p : Char → Bool) : List Char → List (List Char)
  | [] => [[]]
  | c :: rest =>
    if p c then [] :: splitWhere p rest
    else match splitWhere p rest with
      | [] => [[c]]
      | piece :: pieces => (c :: piece) :: pieces

theorem splitWhere_ne_nil (p : Char → Bool) (cs : List Char) : splitWhere p cs ≠ [] := by
  cases cs with
  | nil => simp [splitWhere]
  | cons c rest =>
    simp only [splitWhere]
    split
    · simp
    · split <;> simp

/-- The pieces of a text between the occurrences of a character. -/
def splitAt (sep : Char) (s : String) : List String :=
  (splitWhere (· == sep) s.toList).map String.ofList

/-- What follows the last occurrence of a character, or the whole text. -/
def afterLast (sep : Char) (s : String) : String :=
  String.ofList ((s.toList.reverse.takeWhile (· != sep)).reverse)

/-- The text before and after the first occurrence of a character. -/
def splitOnce? (sep : Char) (s : String) : Option (String × String) :=
  match s.toList.dropWhile (· != sep) with
  | [] => none
  | _ :: rest => some (String.ofList (s.toList.takeWhile (· != sep)), String.ofList rest)

/-- What follows a given beginning. -/
def dropStart? (start : List Char) (cs : List Char) : Option (List Char) :=
  match start, cs with
  | [], rest => some rest
  | _ :: _, [] => none
  | a :: as, c :: rest => if a = c then dropStart? as rest else none

/-- What follows a given beginning of a text. -/
def stripStart? (start s : String) : Option String :=
  (dropStart? start.toList s.toList).map String.ofList

/-- Whether a text begins with another. -/
def startsWith (s start : String) : Bool := (dropStart? start.toList s.toList).isSome

/-- Whether a text ends with another. -/
def endsWith (s ending : String) : Bool :=
  (dropStart? ending.toList.reverse s.toList.reverse).isSome

/-- What precedes a given end of a text. -/
def stripEnd? (s ending : String) : Option String :=
  (dropStart? ending.toList.reverse s.toList.reverse).map fun r => String.ofList r.reverse

/-- Whether a text occurs somewhere in a list of characters. -/
def occursIn (needle : List Char) : List Char → Bool
  | [] => needle.isEmpty
  | c :: rest => (dropStart? needle (c :: rest)).isSome || occursIn needle rest

/-- Whether a text contains another. -/
def contains (s needle : String) : Bool := occursIn needle.toList s.toList

/-- Whether a text contains a character. -/
def containsChar (s : String) (c : Char) : Bool := s.toList.contains c

/-- What follows the first occurrence of `needle`. -/
def afterFirst? (needle : List Char) : List Char → Option (List Char)
  | [] => dropStart? needle []
  | c :: rest =>
    match dropStart? needle (c :: rest) with
    | some after => some after
    | none => afterFirst? needle rest

/-- What follows so many occurrences of `needle`, if there are as many. -/
def afterMany? (needle : List Char) : Nat → List Char → Option (List Char)
  | 0, cs => some cs
  | n + 1, cs => (afterFirst? needle cs).bind (afterMany? needle n)

/-- The text without as many of its pieces between separators, if there are more. -/
def dropPieces? (separator : String) (n : Nat) (s : String) : Option String :=
  (afterMany? separator.toList n s.toList).map String.ofList

/-! ## Replacing -/

/-- Replaces every occurrence of `needle`, the leftmost first and without overlap. The first
argument counts the characters of an occurrence that are still to be skipped. -/
def replaceFrom (needle replacement : List Char) : Nat → List Char → List Char
  | _, [] => []
  | skip + 1, _ :: rest => replaceFrom needle replacement skip rest
  | 0, c :: rest =>
    if !needle.isEmpty && (dropStart? needle (c :: rest)).isSome then
      replacement ++ replaceFrom needle replacement (needle.length - 1) rest
    else c :: replaceFrom needle replacement 0 rest

/-- Replaces every occurrence of a text that is not empty. -/
def replace (s needle replacement : String) : String :=
  String.ofList (replaceFrom needle.toList replacement.toList 0 s.toList)

/-- Replaces every occurrence of a character. -/
def replaceChar (s : String) (c : Char) (replacement : String) : String :=
  String.ofList (s.toList.flatMap fun d => if d == c then replacement.toList else [d])

/-! ## Letter case of ASCII letters -/

/-- Lowers the ASCII letters. -/
def asciiLower (s : String) : String := String.ofList (s.toList.map Char.toLower)

/-- Equality up to the case of ASCII letters. -/
def equalsIgnoringCase (s t : String) : Bool := asciiLower s == asciiLower t

/-! ## Joining -/

/-- The texts one after the other with a separator between them. -/
def join (separator : String) (ss : List String) : String := separator.intercalate ss

/-! ## String literals -/

/-- One character between double quotes: five characters take a backslash. -/
def escapeChar (c : Char) : List Char :=
  if c = '\\' then ['\\', '\\']
  else if c = '"' then ['\\', '"']
  else if c = '\n' then ['\\', 'n']
  else if c = '\r' then ['\\', 'r']
  else if c = '\t' then ['\\', 't']
  else [c]

/-- The text between the double quotes of a string literal. -/
def escape (s : String) : String := String.ofList (s.toList.flatMap escapeChar)

theorem escape_append (s t : String) : escape (s ++ t) = escape s ++ escape t := by
  simp [escape, String.ofList_append]

end ApiLowering.Text
