/-!
# Double-precision numbers

A finite double-precision number is a sign, a whole significand below `2 ^ 53` and a power of two.
All arithmetic on these numbers is exact arithmetic on fractions, followed by one rounding.

## Main definitions

* `Binary64` — a finite double-precision number.
* `Binary64.ofRatio?` — the number nearest to a fraction, a half going to the even significand;
  none if the fraction is too large.
* `Binary64.scale10?` — one multiplication or division by a power of ten.

## Main results

* `Binary64.roundHalfEven_error` — rounding a quotient is off by at most one half.
-/

namespace ApiLowering

/-- The finite double-precision number `± significand * 2 ^ exponent`. A number other than zero has
its largest significand below `2 ^ 53` whose exponent is at least `-1074`; zero has the exponent
`-1074`. -/
structure Binary64 where
  /-- Whether the number carries a minus sign. -/
  negative : Bool
  /-- The significand. -/
  significand : Nat
  /-- The exponent of two. -/
  exponent : Int
deriving Repr, DecidableEq, Inhabited

namespace Binary64

/-! ## Rounding -/

/-- The whole number nearest to `num / den`, a half going to the even one. -/
def roundHalfEven (num den : Nat) : Nat :=
  let q := num / den
  let r := num % den
  if 2 * r < den then q
  else if den < 2 * r then q + 1
  else if q % 2 = 0 then q else q + 1

/-- Rounding moves a quotient by at most one half. -/
theorem roundHalfEven_error (num den : Nat) (h : 0 < den) :
    2 * num ≤ 2 * (roundHalfEven num den * den) + den ∧
      2 * (roundHalfEven num den * den) ≤ 2 * num + den := by
  have hq : den * (num / den) + num % den = num := Nat.div_add_mod num den
  have hr : num % den < den := Nat.mod_lt num h
  simp only [roundHalfEven]
  have hc : num / den * den = den * (num / den) := Nat.mul_comm _ _
  split
  · omega
  · split
    · rw [Nat.add_mul]; omega
    · split
      · omega
      · rw [Nat.add_mul]; omega

/-- The fraction `num / den * 2 ^ shift`, as numerator and denominator. -/
def shiftRatio (num den : Nat) (shift : Int) : Nat × Nat :=
  if 0 ≤ shift then (num * Nat.pow 2 shift.toNat, den) else (num, den * Nat.pow 2 (-shift).toNat)

/-- The smallest exponent. -/
def minExponent : Int := -1074

/-- The largest exponent. -/
def maxExponent : Int := 971

/-- Zero with a sign. -/
def zero (negative : Bool) : Binary64 := ⟨negative, 0, minExponent⟩

/-- The number nearest to `num / den` (`den` is positive), or none if that is out of range. -/
def ofRatio? (negative : Bool) (num den : Nat) : Option Binary64 :=
  if num = 0 then some (zero negative)
  else
    -- an exponent at which the quotient has 53 or 54 binary digits before the point
    let guess : Int := (Nat.log2 num : Int) - (Nat.log2 den : Int) - 53
    let (n, d) := shiftRatio num den (-guess)
    let fitted := if n / d < Nat.pow 2 53 then guess else guess + 1
    let e := max fitted minExponent
    let (n, d) := shiftRatio num den (-e)
    let q := roundHalfEven n d
    let (q, e) := if q = Nat.pow 2 53 then (Nat.pow 2 52, e + 1) else (q, e)
    if e ≤ maxExponent then some ⟨negative, q, e⟩ else none

/-- The number as a fraction, without its sign. -/
def ratio (x : Binary64) : Nat × Nat := shiftRatio x.significand 1 x.exponent

/-- The number nearest to a decimal `digits * 10 ^ exponent`. -/
def ofDecimal? (negative : Bool) (digits : Nat) (exponent : Int) : Option Binary64 :=
  if 0 ≤ exponent then ofRatio? negative (digits * Nat.pow 10 exponent.toNat) 1
  else ofRatio? negative digits (Nat.pow 10 (-exponent).toNat)

/-- The number nearest to a whole number below `2 ^ 64`. -/
def ofNat (negative : Bool) (n : Nat) : Binary64 := (ofRatio? negative n 1).getD (zero negative)

/-! ## Scaling -/

/-- One multiplication by the number nearest to `10 ^ k`, or one division by it. -/
def scale10? (x : Binary64) (divide : Bool) (k : Nat) : Option Binary64 :=
  let (n, d) := x.ratio
  let (pn, pd) := (ofNat10 k).ratio
  if divide then ofRatio? x.negative (n * pd) (d * pn) else ofRatio? x.negative (n * pn) (d * pd)
where
  /-- The number nearest to `10 ^ k`, for `k ≤ 308`. -/
  ofNat10 (k : Nat) : Binary64 := (ofRatio? false (Nat.pow 10 k) 1).getD (zero false)

/-! ## Comparing and truncating -/

/-- Equality of values: the two zeros are equal. -/
def sameValue (x y : Binary64) : Bool := x == y || (x.significand == 0 && y.significand == 0)

/-- Whether the number is whole. -/
def isWhole (x : Binary64) : Bool :=
  let (n, d) := x.ratio
  n % d == 0

/-- The whole part of the number, without its sign. -/
def wholePart (x : Binary64) : Nat :=
  let (n, d) := x.ratio
  n / d

end Binary64

end ApiLowering
