import ApiLowering.Text.Basic
import ApiLowering.Text.Letters
import ApiLowering.Text.LetterCase

/-!
# Words and their spellings

A name is cut into words where its separators and its changes of case say so, and the words are
joined again in another spelling.

## Main definitions

* `Text.words` — the words of a text, in order.
* `Text.snakeCase`, `Text.shoutySnakeCase` — the words joined by underscores.
* `Text.camelCase` — the parts between separators, each with a capital.
* `Text.plural` — the English plural of a word, by its last letters alone.

## Main results

* `Text.flatten_cutWord` — cutting a run of letters into words loses no character.
-/

namespace ApiLowering.Text

/-! ## Cutting into words -/

/-- The case that the current word has shown so far. -/
inductive WordCase where
  | undecided
  | lower
  | upper
deriving DecidableEq

/-- The case of a word after one more character. -/
def WordCase.after (m : WordCase) (c : Char) : WordCase :=
  if isLowercase c then .lower else if isUppercase c then .upper else m

/-- Cuts a run of alphanumeric characters: after a lower-case stretch that meets a capital, and
before the last capital of a stretch that meets a small letter. The current word is kept reversed.
-/
def cutWord : WordCase → List Char → List Char → List (List Char)
  | _, _, [] => []
  | _, current, [c] => [(c :: current).reverse]
  | m, current, c :: next :: rest =>
    if m.after c = .lower ∧ isUppercase next then
      (c :: current).reverse :: cutWord .undecided [] (next :: rest)
    else if m = .upper ∧ isUppercase c ∧ isLowercase next then
      current.reverse :: cutWord .undecided [c] (next :: rest)
    else cutWord (m.after c) (c :: current) (next :: rest)

/-- Cutting loses no character. -/
theorem flatten_cutWord (m : WordCase) (current rest : List Char) (h : rest ≠ []) :
    (cutWord m current rest).flatten = current.reverse ++ rest := by
  fun_induction cutWord m current rest with
  | case1 => exact absurd rfl h
  | case2 => simp
  | case3 m current c next rest _ ih => simp [ih]
  | case4 m current c next rest _ _ ih => simp [ih]
  | case5 m current c next rest _ _ ih => simp [ih]

/-- The words of a text: runs of alphanumeric characters, cut at their changes of case. -/
def words (s : String) : List (List Char) :=
  (splitWhere (fun c => !isAlphanumeric c) s.toList).flatMap (cutWord .undecided [])

/-! ## Joining words -/

/-- The lower-case form of a word; a sigma at its end takes its final form. -/
def lowerWord : List Char → List Char
  | [] => []
  | [c] => if c.toNat = 0x3A3 then [Char.ofNat 0x3C2] else lowercase c
  | c :: rest => lowercase c ++ lowerWord rest

/-- The words in lower case, joined by underscores. -/
def snakeCase (s : String) : String :=
  join "_" ((words s).map fun w => String.ofList (lowerWord w))

/-- The words in upper case, joined by underscores. -/
def shoutySnakeCase (s : String) : String :=
  join "_" ((words s).map fun w => String.ofList (w.flatMap uppercase))

/-- The text with its first character in upper case. -/
def upperFirst (s : String) : String :=
  match s.toList with
  | [] => ""
  | c :: rest => String.ofList (uppercase c ++ rest)

/-- The text with its first character in lower case. -/
def lowerFirst (s : String) : String :=
  match s.toList with
  | [] => ""
  | c :: rest => String.ofList (lowercase c ++ rest)

/-- Whether a character separates the parts of a camel-case name. -/
def isSeparator (c : Char) : Bool := c == '_' || c == '-' || c == ' ' || c == '.'

/-- The parts of a text between separators, each with its first character in upper case and the
rest as written. -/
def camelCase (s : String) : String :=
  String.join ((splitWhere isSeparator s.toList).map fun part => upperFirst (String.ofList part))

/-- The same with its first character in lower case. -/
def lowerCamelCase (s : String) : String := lowerFirst (camelCase s)

/-! ## Plurals -/

/-- The English plural of a word by its last letters: a word in a single `s` is plural already, `y`
after no vowel becomes `ies`, a hissing end takes `es`, and all else `s`. -/
def plural (s : String) : String :=
  let lower := asciiLower s
  match lower.toList.reverse with
  | [] => ""
  | last :: before =>
    if last = 's' && before.head? != some 's' then s
    else if last = 'y' && !(before.head?.any fun c => c ∈ ['a', 'e', 'i', 'o', 'u']) then
      String.ofList s.toList.dropLast ++ "ies"
    else if ["ss", "x", "z", "ch", "sh"].any (endsWith lower) then s ++ "es"
    else s ++ "s"

end ApiLowering.Text
