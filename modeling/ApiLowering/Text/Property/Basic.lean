import ApiLowering.Text.Ranges
import ApiLowering.Text.Basic

/-!
# Named properties of characters

A property that is known by its names is stored with its ranges as text, in capital hexadecimal
digits: `41-5A AA` are the capitals of ASCII and the feminine ordinal.

## Main definitions

* `Text.readRanges` — the ranges that a text lists.
* `Text.Property` — a property with its names.
* `Text.rangesNamed?` — the ranges of the property of a name.

## Main results

* `Text.readRange_of_noHyphen` — a text without a hyphen stands for a single code point.
-/

namespace ApiLowering.Text

/-- The number that capital hexadecimal digits write down. -/
def hexNumber (digits : List Char) : Nat :=
  digits.foldl (fun n d => n * 16 + (if d.isDigit then d.toNat - 48 else d.toNat - 55)) 0

/-- A range as text: its two ends with a hyphen between them, or its only code point. -/
def readRange (cs : List Char) : Nat × Nat :=
  match cs.dropWhile (· != '-') with
  | _ :: last => (hexNumber (cs.takeWhile (· != '-')), hexNumber last)
  | [] => (hexNumber cs, hexNumber cs)

/-- The ranges that a text lists with a blank between them. -/
def readRanges (s : String) : List (Nat × Nat) := (splitWhere (· == ' ') s.toList).map readRange

/-- A property of characters. Its names are in small letters, with neither blanks nor hyphens nor
underscores. -/
structure Property where
  names : List String
  lines : List String

/-- The ranges of a property. -/
def Property.ranges (p : Property) : List (Nat × Nat) := p.lines.flatMap readRanges

/-- The ranges of the property of a name. -/
def rangesNamed? (table : List Property) (name : String) : Option (List (Nat × Nat)) :=
  (table.find? (·.names.contains name)).map Property.ranges

/-- A text without a hyphen stands for a single code point. -/
theorem readRange_of_noHyphen {cs : List Char} (h : cs.all (· != '-') = true) :
    readRange cs = (hexNumber cs, hexNumber cs) := by
  have hd : cs.dropWhile (· != '-') = [] := by
    induction cs with
    | nil => rfl
    | cons c cs ih =>
      rw [List.all_cons, Bool.and_eq_true] at h
      rw [List.dropWhile_cons, if_pos h.1]
      exact ih h.2
  rw [readRange, hd]

end ApiLowering.Text
