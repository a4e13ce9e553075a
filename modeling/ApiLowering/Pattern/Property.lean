import ApiLowering.Pattern.CharSet
import ApiLowering.Text.LetterCase
import ApiLowering.Text.Property.Category
import ApiLowering.Text.Property.Script
import ApiLowering.Text.Property.Usage

/-!
# Sets by property

A search pattern may name a set by a property that the character standard gives to its characters:
a general category or a group of categories, a script, or another property, such as being
alphabetic. Names are compared without regard to case, blanks, hyphens and underscores, and may
start with `is`.

A character that several scripts share counts for none of them. Ages and the classes of text breaks
are not known.

## Main definitions

* `CharSet.ofProperty?` — the set of the characters with a property.
* `CharSet.ofPropertyValue?` — the set of the characters for which a property has a value.

## Main results

* `CharSet.contains_unassigned` — a character is unassigned or belongs to a category.
-/

namespace ApiLowering.CharSet

/-! ## Names -/

/-- A name without what does not matter. An `is` at its start does not matter, unless the letter c
alone follows it. -/
def propertyName (name : List Char) : String :=
  let compare (cs : List Char) : List Char :=
    (cs.filter fun c => c.toNat < 128 && c != ' ' && c != '_' && c != '-').map Char.toLower
  match name with
  | i :: s :: rest =>
    if i.toLower = 'i' ∧ s.toLower = 's' then
      let rest := compare rest
      String.ofList (if rest = ['c'] then ['i', 's', 'c'] else rest)
    else String.ofList (compare name)
  | name => String.ofList (compare name)

/-! ## Categories -/

/-- The characters that a text lists. -/
def listed (s : String) : CharSet := .ranges (Text.readRanges s)

/-- The characters of some categories. -/
def inCategories (names : List String) : CharSet :=
  .ranges <| Text.joinRanges <|
    names.flatMap fun name => (Text.rangesNamed? Text.categories name).getD []

/-- The characters of all categories. -/
def assigned : CharSet :=
  .ranges (Text.joinRanges (Text.categories.flatMap Text.Property.ranges))

/-- The characters of no category. -/
def unassigned : CharSet := .complement assigned

/-- The letters. -/
def letters : CharSet := inCategories ["lu", "ll", "lt", "lm", "lo"]

/-- The marks. -/
def marks : CharSet := inCategories ["mn", "mc", "me"]

/-- The set of a category or of a group of categories. -/
def ofCategory? (name : String) : Option CharSet :=
  match name with
  | "any" => some (.complement .empty)
  | "ascii" => some (.range (Char.ofNat 0) (Char.ofNat 127))
  | "assigned" => some assigned
  | "unassigned" | "cn" => some unassigned
  | "other" | "c" => some (.union [inCategories ["cc", "cf", "co"], unassigned])
  | "letter" | "l" => some letters
  | "casedletter" | "lc" => some (inCategories ["lu", "ll", "lt"])
  | "mark" | "m" | "combiningmark" => some marks
  | "number" | "n" => some (inCategories ["nd", "nl", "no"])
  | "punctuation" | "p" | "punct" =>
    some (inCategories ["pc", "pd", "ps", "pe", "pi", "pf", "po"])
  | "symbol" | "s" => some (inCategories ["sm", "sc", "sk", "so"])
  | "separator" | "z" => some (inCategories ["zs", "zl", "zp"])
  | name => (Text.rangesNamed? Text.categories name).map .ranges

/-- The set of a script. -/
def ofScript? (name : String) : Option CharSet := (Text.rangesNamed? Text.scripts name).map .ranges

/-! ## Letters and their case -/

/-- The characters of a table of edition 17 that edition 16 has, too. -/
def established (table : List (Nat × Nat)) : CharSet :=
  .without (.ranges table) (.ranges Text.recentRanges)

/-- The code points that some runs move. -/
def moved (shifts : List Text.Shift) : List (Nat × Nat) :=
  shifts.flatMap fun (first, last, step, _) =>
    if step = 1 then [(first, last)]
    else (List.range ((last - first) / step + 1)).map fun k => (first + k * step, first + k * step)

/-- The alphabetic characters. -/
def alphabetic : CharSet :=
  .union [.range 'A' 'Z', .range 'a' 'z', established Text.alphabeticRanges]

/-- The lower-case characters. The small form of the pharyngeal fricative lost its case with
edition 17. -/
def lowercase : CharSet :=
  .union [.range 'a' 'z', established Text.lowercaseRanges, single (Char.ofNat 0x295)]

/-- The upper-case characters. -/
def uppercase : CharSet := .union [.range 'A' 'Z', established Text.uppercaseRanges]

/-- The characters whose lower-case form is another. -/
def lowercased : CharSet :=
  .union [.range 'A' 'Z', established (moved Text.lowercaseShifts), single (Char.ofNat 0x130)]

/-- The characters whose upper-case form is another. Two letters got one with edition 17. -/
def uppercased : CharSet :=
  let expanded := Text.uppercaseExpansions.map fun (n, _) => (n, n)
  .without (.union [.range 'a' 'z', established (moved Text.uppercaseShifts), .ranges expanded])
    (listed "A7D3 A7D5")

/-- The characters whose form at the start of a title is another. -/
def titlecased : CharSet :=
  .union [.without uppercased (.union [inCategories ["lt"], listed "10D0-10FA 10FD-10FF"]),
    listed "1C4 1C7 1CA 1F1"]

/-- The characters that change when case is folded, which may turn one into several. -/
def casefolded : CharSet :=
  .union [.without (.ranges (moved Text.foldShifts)) (listed "1FBE 1FD3 1FE3"),
    listed "DF 130 149 587 1E9A 1F80-1F87 1F90-1F97 1FA0-1FA7 1FB2-1FB4 1FB7 1FC2-1FC4 1FC7",
    listed "1FF2-1FF4 1FF7 FB00-FB06 FB13-FB17"]

/-! ## Names of programs -/

/-- The characters that may extend the character before them. -/
def extending : CharSet :=
  .union [inCategories ["me", "mn"],
    .ranges ((Text.rangesNamed? Text.usages "othergraphemeextend").getD [])]

/-- The characters that may start a name. -/
def nameStart : CharSet :=
  .without (.union [letters, inCategories ["nl"], listed "1885-1886 2118 212E 309B-309C"])
    (single (Char.ofNat 0x2E2F))

/-- The characters that may stand in a name. -/
def namePart : CharSet :=
  .union [nameStart, inCategories ["mn", "mc", "nd", "pc"],
    listed "B7 387 1369-1371 19DA 200C-200D 30FB FF65"]

/-- The characters whose compatibility forms may not stand in a name at the same places. -/
def unstable : CharSet :=
  listed "37A 309B-309C FC5E-FC63 FDFA-FDFB FE70 FE72 FE74 FE76 FE78 FE7A FE7C FE7E"

/-! ## Properties -/

/-- The set of a property. -/
def ofProperty? (name : String) : Option CharSet :=
  let usage : Option CharSet := (Text.rangesNamed? Text.usages name).map .ranges
  let derived : Option CharSet :=
    match name with
    | "alphabetic" | "alpha" => some alphabetic
    | "lowercase" | "lower" => some lowercase
    | "uppercase" | "upper" => some uppercase
    | "whitespace" | "wspace" | "space" => some .space
    | "cased" => some (.union [lowercase, uppercase, inCategories ["lt"]])
    | "caseignorable" | "ci" =>
      some (.union [inCategories ["mn", "me", "cf", "lm", "sk"],
        listed "27 2E 3A B7 387 55F 5F4 2018-2019 2024 2027 FE13 FE52 FE55 FF07 FF0E FF1A"])
    | "changeswhenlowercased" | "cwl" => some lowercased
    | "changeswhenuppercased" | "cwu" => some uppercased
    | "changeswhentitlecased" | "cwt" => some titlecased
    | "changeswhencasefolded" | "cwcf" => some casefolded
    | "changeswhencasemapped" | "cwcm" => some (.union [lowercased, uppercased, titlecased])
    | "otheralphabetic" | "oalpha" =>
      some (.without alphabetic (.union [letters, inCategories ["nl"]]))
    | "otherlowercase" | "olower" => some (.without lowercase (inCategories ["ll"]))
    | "otheruppercase" | "oupper" => some (.without uppercase (inCategories ["lu"]))
    | "graphemeextend" | "grext" => some extending
    | "graphemebase" | "grbase" =>
      some (.without assigned (.union [inCategories ["cc", "cf", "co", "zl", "zp"], extending]))
    | "idstart" | "ids" => some nameStart
    | "idcontinue" | "idc" => some namePart
    | "xidstart" | "xids" =>
      some (.without nameStart (.union [unstable, listed "E33 EB3 FF9E-FF9F"]))
    | "xidcontinue" | "xidc" => some (.without namePart unstable)
    | "math" =>
      some (.union [inCategories ["sm"],
        .ranges ((Text.rangesNamed? Text.usages "othermath").getD [])])
    | _ => none
  derived <|> usage <|> ofCategory? name <|> ofScript? name

/-- The set of the characters for which a property has a value. -/
def ofPropertyValue? (name value : String) : Option CharSet :=
  match name with
  | "generalcategory" | "gc" => ofCategory? value
  | "script" | "sc" | "scriptextensions" | "scx" => ofScript? value
  | _ => none

/-! ## Laws -/

/-- A character is unassigned or belongs to a category. -/
theorem contains_unassigned (c : Char) : unassigned.contains c = !assigned.contains c := by
  rw [unassigned, contains]

end ApiLowering.CharSet
