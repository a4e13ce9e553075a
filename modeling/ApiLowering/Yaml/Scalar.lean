import ApiLowering.Tree
import ApiLowering.Text.Basic

/-!
# The types of plain scalars

A scalar without quotes is null, a boolean or a number if it is spelled like one, and a text
otherwise. `yes`, `1_000`, dates and numbers with leading zeros are texts.

## Main definitions

* `Yaml.wholeNumber?` — a whole number in one of four bases.
* `Yaml.doubleNumber?` — a number with a fraction or an exponent.
* `Yaml.resolve`, `Yaml.resolveTagged` — the typed value of a plain scalar, and of one with a tag.
-/

namespace ApiLowering.Yaml

/-! ## Whole numbers -/

/-- The value of a digit in some base up to 16. -/
def digitIn? (base : Nat) (c : Char) : Option Nat :=
  let n :=
    if c.isDigit then c.toNat - 48
    else if 'a' ≤ c ∧ c ≤ 'f' then c.toNat - 87
    else if 'A' ≤ c ∧ c ≤ 'F' then c.toNat - 55
    else 16
  if n < base then some n else none

/-- The value of digits in a base; none if there are none or one of them is foreign. -/
def naturalIn? (base : Nat) (cs : List Char) : Option Nat :=
  if cs.isEmpty then none
  else cs.foldl (fun acc c => do return (← acc) * base + (← digitIn? base c)) (some 0)

/-- A natural number: `0x`, `0o` and `0b` announce a base, and leading zeros are refused. -/
def natural? (cs : List Char) : Option Nat :=
  match cs with
  | '0' :: 'x' :: rest => naturalIn? 16 rest
  | '0' :: 'o' :: rest => naturalIn? 8 rest
  | '0' :: 'b' :: rest => naturalIn? 2 rest
  | '0' :: _ :: _ => none
  | cs => naturalIn? 10 cs

/-- A whole number with or without a sign. -/
def wholeNumber? (cs : List Char) : Option Int :=
  match cs with
  | '-' :: rest => (natural? rest).map fun n => -(n : Int)
  | '+' :: rest => (natural? rest).map Int.ofNat
  | rest => (natural? rest).map Int.ofNat

/-- The scalar of a whole number: numbers of 65 to 128 bits are refused, larger ones are no whole
numbers. -/
def wholeScalar? (n : Int) : Option Scalar :=
  let fits (below above : Nat) : Bool := -(Nat.pow 2 below : Int) ≤ n && n < Nat.pow 2 above
  if fits 63 64 then some (.number (.whole n))
  else if fits 127 128 then some .unreadable
  else none

/-! ## Other numbers -/

/-- The decimal of digits with at most one point among them: its digits and its power of ten. -/
def mantissa? (cs : List Char) : Option (Nat × Int) :=
  let (whole, rest) := Number.takeDigits cs
  match rest with
  | [] => if whole.isEmpty then none else some (Number.digitsValue whole, 0)
  | '.' :: fraction =>
    if fraction.all Char.isDigit && !(whole.isEmpty && fraction.isEmpty) then
      some (Number.digitsValue (whole ++ fraction), -(fraction.length : Int))
    else none
  | _ => none

/-- The exponent of a decimal, the empty one being zero. -/
def exponent? (cs : List Char) : Option Int :=
  let (negative, ds) := match cs with
    | '-' :: r => (true, r)
    | '+' :: r => (false, r)
    | r => (false, r)
  if ds.isEmpty || !ds.all Char.isDigit then none
  else
    let n : Int := Number.digitsValue ds
    some (if negative then -n else n)

/-- The magnitude beyond which a decimal is certainly zero or out of range. -/
def exponentLimit : Int := 100000

/-- The number nearest to a decimal with or without an exponent; none if it is out of range. -/
def decimal? (negative : Bool) (cs : List Char) : Option Binary64 := do
  let isMark (c : Char) : Bool := c == 'e' || c == 'E'
  let (digits, power) ← mantissa? (cs.takeWhile fun c => !isMark c)
  let e ← match cs.dropWhile fun c => !isMark c with
    | [] => some 0
    | _ :: e => exponent? e
  if digits = 0 || e < -exponentLimit then some (Binary64.zero negative)
  else if exponentLimit < e then none
  else Binary64.ofDecimal? negative digits (power + e)

/-- Whether a text is digits with a leading zero, after a sign or none. -/
def hasLeadingZero (cs : List Char) : Bool :=
  let ds := match cs with
    | '-' :: r => r
    | '+' :: r => r
    | r => r
  ds.length > 1 && ds.head? == some '0' && ds.all Char.isDigit

/-- A number, or a name of infinity or of no number. -/
def doubleNumber? (s : String) : Option Scalar :=
  if [".inf", ".Inf", ".INF", "+.inf", "+.Inf", "+.INF", "-.inf", "-.Inf", "-.INF", ".nan", ".NaN",
      ".NAN"].contains s then some .nonFinite
  else
    let number := match s.toList with
      | '-' :: rest => decimal? true rest
      | '+' :: rest => decimal? false rest
      | rest => decimal? false rest
    number.map fun x => .number (.double x)

/-! ## Resolution -/

/-- Whether a text is a word for null. -/
def isNullWord (s : String) : Bool := ["null", "Null", "NULL", "~"].contains s

/-- Whether a plain scalar is null. -/
def isNullText (s : String) : Bool := s == "" || isNullWord s

/-- A boolean. -/
def boolean? (s : String) : Option Bool :=
  if ["true", "True", "TRUE"].contains s then some true
  else if ["false", "False", "FALSE"].contains s then some false
  else none

/-- The value of a number as a scalar. Digits with a leading zero are no number. -/
def number? (s : String) : Option Scalar :=
  match (wholeNumber? s.toList).bind wholeScalar? with
  | some v => some v
  | none => if hasLeadingZero s.toList then none else doubleNumber? s

/-- A natural number below `2 ^ 64`, without a minus sign. -/
def unsigned? (s : String) : Option Nat :=
  match s.toList with
  | '-' :: _ => none
  | cs => (wholeNumber? cs).bind fun n => if n.toNat < Nat.pow 2 64 then some n.toNat else none

/-- The typed value of a plain scalar. -/
def resolve (s : String) : Scalar :=
  if isNullText s then .null
  else match boolean? s with
    | some b => .bool b
    | none => (number? s).getD (.text s)

/-! ## Tags -/

/-- What the tags of the standard types begin with. -/
def standardTag : String := "tag:yaml.org,2002:"

/-- The tag of booleans. -/
def boolTag : String := standardTag ++ "bool"

/-- The tag of whole numbers. -/
def intTag : String := standardTag ++ "int"

/-- The tag of other numbers. -/
def floatTag : String := standardTag ++ "float"

/-- The tag of null. -/
def nullTag : String := standardTag ++ "null"

/-- Whether a tag is of its author's own. -/
def isOwnTag (tag : String) : Bool := Text.startsWith tag "!"

/-- The scalar of a text under a tag, quoted or not: the standard tags name a type, a tag of the
author's own is refused, and any other one makes it a text. -/
def resolveTagged (tag s : String) : Scalar :=
  if tag == nullTag then if isNullWord s then .null else .unreadable
  else if tag == boolTag then (boolean? s).elim .unreadable .bool
  else if tag == intTag then ((wholeNumber? s.toList).bind wholeScalar?).getD .unreadable
  else if tag == floatTag then (doubleNumber? s).getD .unreadable
  else if isOwnTag tag then .unreadable
  else .text s

end ApiLowering.Yaml
