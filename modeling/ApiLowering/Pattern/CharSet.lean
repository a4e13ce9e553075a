import ApiLowering.Text.Letters
import ApiLowering.Text.Folding
import ApiLowering.Text.Basic

/-!
# Sets of characters

The sets that a search pattern names: ranges and tables of them, the digits, blanks and word
characters, and what the set operations make of them. A set is kept as it was put together; only
membership is computed.

## Main definitions

* `CharSet` — sets of characters.
* `CharSet.contains` — membership.

## Main results

* `CharSet.contains_anyCase_of_contains` — closing a set under changes of case loses no member.
* `CharSet.contains_without` — a difference holds what the first set holds and the second does not.
-/

namespace ApiLowering

/-- A set of characters. -/
inductive CharSet where
  | range (first last : Char)
  /-- The characters of a table. -/
  | ranges (table : List (Nat × Nat))
  | digit
  | space
  | word
  | union (sets : List CharSet)
  | complement (set : CharSet)
  /-- The characters of both sets. -/
  | both (s t : CharSet)
  /-- The characters of the first set that are not in the second. -/
  | without (s t : CharSet)
  /-- The characters of one of the sets only. -/
  | either (s t : CharSet)
  /-- The characters that differ from one of the set in case at most. -/
  | anyCase (set : CharSet)
  /-- The same, where only the letters of ASCII have a case. -/
  | anyAsciiCase (set : CharSet)
deriving Repr, Inhabited

namespace CharSet

mutual

/-- Membership. -/
def contains : CharSet → Char → Bool
  | .range first last, c => first ≤ c && c ≤ last
  | .ranges table, c => Text.inRanges table c
  | .digit, c => Text.isWordDigit c
  | .space, c => Text.isBlank c
  | .word, c => Text.isWordCharacter c
  | .union sets, c => anyContains sets c
  | .complement set, c => !contains set c
  | .both s t, c => contains s c && contains t c
  | .without s t, c => contains s c && !contains t c
  | .either s t, c => contains s c != contains t c
  | .anyCase set, c => (Text.caseVariants c).any fun d => contains set d
  | .anyAsciiCase set, c => contains set c || contains set c.toLower || contains set c.toUpper

/-- Membership in one of several sets. -/
def anyContains : List CharSet → Char → Bool
  | [], _ => false
  | s :: ss, c => contains s c || anyContains ss c

end

/-- The set of a single character. -/
def single (c : Char) : CharSet := .range c c

/-- No character at all. -/
def empty : CharSet := .union []

/-! ## The sets of ASCII -/

/-- The digits of ASCII. -/
def asciiDigit : CharSet := .range '0' '9'

/-- The blanks of ASCII. -/
def asciiSpace : CharSet := .union [.range '\t' '\r', single ' ']

/-- The letters, the digits and the underscore of ASCII. -/
def asciiWord : CharSet := .union [.range '0' '9', .range 'A' 'Z', .range 'a' 'z', single '_']

/-- The set of a name that stands between brackets and colons. -/
def ofName? (name : String) : Option CharSet :=
  match name with
  | "alnum" => some (.union [.range '0' '9', .range 'A' 'Z', .range 'a' 'z'])
  | "alpha" => some (.union [.range 'A' 'Z', .range 'a' 'z'])
  | "ascii" => some (.range (Char.ofNat 0) (Char.ofNat 127))
  | "blank" => some (.union [single '\t', single ' '])
  | "cntrl" => some (.union [.range (Char.ofNat 0) (Char.ofNat 31), single (Char.ofNat 127)])
  | "digit" => some asciiDigit
  | "graph" => some (.range '!' '~')
  | "lower" => some (.range 'a' 'z')
  | "print" => some (.range ' ' '~')
  | "punct" =>
    some (.union [.range '!' '/', .range ':' '@', .range '[' '\x60', .range '\x7b' '~'])
  | "space" => some asciiSpace
  | "upper" => some (.range 'A' 'Z')
  | "word" => some asciiWord
  | "xdigit" => some (.union [.range '0' '9', .range 'A' 'F', .range 'a' 'f'])
  | _ => none

/-! ## Laws -/

/-- Closing a set under changes of case loses no member. -/
theorem contains_anyCase_of_contains {s : CharSet} {c : Char} (h : s.contains c = true) :
    (anyCase s).contains c = true := by
  rw [contains, List.any_eq_true]
  exact ⟨c, Text.mem_caseVariants_self c, h⟩

/-- A difference holds what the first set holds and the second does not. -/
theorem contains_without (s t : CharSet) (c : Char) :
    (without s t).contains c = (s.contains c && !t.contains c) := by
  rw [contains]

end CharSet

end ApiLowering
