import ApiLowering.Decimal.Binary64

/-!
# Shortest decimals

The decimal text of a double-precision number: the fewest digits that read back as the same number,
and among those the ones nearest to it. How the digits are laid out is a separate decision.

## Main definitions

* `Binary64.readsBack` — whether a decimal rounds to the number.
* `Binary64.shortest` — the digits and their power of ten.
* `Binary64.plainText` — every digit written out, without an exponent.
* `Binary64.scientificText` — plain text for moderate sizes, otherwise with an exponent.

## Main results

* `Binary64.readsBack_of_mem_candidates` — whatever the search finds reads back.
-/

namespace ApiLowering.Binary64

/-! ## Choosing the digits -/

/-- The decimal `digits * 10 ^ power` as a fraction. -/
def decimalRatio (digits : Nat) (power : Int) : Nat × Nat :=
  if 0 ≤ power then (digits * Nat.pow 10 power.toNat, 1) else (digits, Nat.pow 10 (-power).toNat)

/-- Whether a decimal lies in the interval of fractions that round to the number. The interval ends
halfway to the neighbours, and its ends belong to it if the significand is even. -/
def readsBack (x : Binary64) (digits : Nat) (power : Int) : Bool :=
  let (n, d) := decimalRatio digits power
  let m := x.significand
  -- below the smallest significand of a binade the neighbour is half as far away
  let narrow := m == Nat.pow 2 52 && minExponent < x.exponent
  let (lowNum, lowDen) := shiftRatio (if narrow then 4 * m - 1 else 4 * m - 2) 4 x.exponent
  let (highNum, highDen) := shiftRatio (4 * m + 2) 4 x.exponent
  if m % 2 == 0 then lowNum * d ≤ n * lowDen && n * highDen ≤ highNum * d
  else lowNum * d < n * lowDen && n * highDen < highNum * d

/-- The points of the grid of multiples of `10 ^ power` next to the number that read back, nearest
first; of two equally near ones the even one comes first. -/
def candidates (x : Binary64) (power : Int) : List Nat :=
  let (n, d) := x.ratio
  let (n, d) :=
    if 0 ≤ power then (n, d * Nat.pow 10 power.toNat) else (n * Nat.pow 10 (-power).toNat, d)
  let low := n / d
  let r := n % d
  let order := if 2 * r < d || (2 * r == d && low % 2 == 0) then [low, low + 1] else [low + 1, low]
  order.filter fun digits => x.readsBack digits power

theorem readsBack_of_mem_candidates (x : Binary64) (power : Int) {digits : Nat}
    (h : digits ∈ x.candidates power) : x.readsBack digits power = true := by
  simp only [candidates, List.mem_filter] at h
  exact h.2

/-- The number of decimal digits before the point: the least `k` with `x < 10 ^ k`. -/
def magnitude (x : Binary64) : Int :=
  let (n, d) := x.ratio
  let below (k : Int) : Bool :=
    if 0 ≤ k then n < d * Nat.pow 10 k.toNat else n * Nat.pow 10 (-k).toNat < d
  let guess : Int := ((Nat.log2 n : Int) - (Nat.log2 d : Int)) * 30103 / 100000 - 1
  if below guess then guess
  else if below (guess + 1) then guess + 1
  else if below (guess + 2) then guess + 2
  else guess + 3

/-- Searches the grids from the coarse to the fine. -/
def search (x : Binary64) : Nat → Int → Nat × Int
  | 0, power => ((x.candidates power).headD 0, power)
  | finer + 1, power =>
    match x.candidates power with
    | digits :: _ => (digits, power)
    | [] => search x finer (power - 1)

/-- Moves the zeros at the end of the digits into the power. -/
def stripZeros : Nat → Nat → Int → Nat × Int
  | 0, digits, power => (digits, power)
  | fuel + 1, digits, power =>
    if digits ≠ 0 ∧ digits % 10 = 0 then stripZeros fuel (digits / 10) (power + 1)
    else (digits, power)

/-- The shortest digits that read back, and the power of ten of the last one. -/
def shortest (x : Binary64) : Nat × Int :=
  if x.significand = 0 then (0, 0)
  else
    let (digits, power) := x.search 20 (x.magnitude - 1)
    stripZeros 20 digits power

/-! ## Layouts -/

/-- The sign of the text. -/
def signText (x : Binary64) : String := if x.negative then "-" else ""

/-- The text of `digits * 10 ^ power` with a point and without an exponent; `fraction` is what
stands for an empty fraction. -/
def positional (digits : Nat) (power : Int) (fraction : String) : String :=
  let ds := (toString digits).toList
  if 0 ≤ power then String.ofList (ds ++ List.replicate power.toNat '0') ++ fraction
  else
    let places := (-power).toNat
    let padded := List.replicate (places + 1 - ds.length) '0' ++ ds
    let whole := padded.take (padded.length - places)
    String.ofList (whole ++ '.' :: padded.drop (padded.length - places))

/-- Every digit written out; a whole number has no point. -/
def plainText (x : Binary64) : String :=
  let (digits, power) := x.shortest
  x.signText ++ positional digits power ""

/-- Plain text with at least one place after the point while the leading digit stands for `10 ^ e`
with `-5 ≤ e < 16`, otherwise one digit before the point and an exponent with its sign. -/
def scientificText (x : Binary64) : String :=
  let (digits, power) := x.shortest
  let ds := (toString digits).toList
  let e : Int := power + ds.length - 1
  if x.significand = 0 || (-5 ≤ e && e < 16) then x.signText ++ positional digits power ".0"
  else
    let tail := ds.drop 1
    let point := if tail.isEmpty then "" else "."
    let exponentSign := if 0 ≤ e then "+" else "-"
    x.signText ++ String.ofList (ds.take 1) ++ point ++ String.ofList tail ++ "e" ++ exponentSign ++
      toString e.natAbs

end ApiLowering.Binary64
