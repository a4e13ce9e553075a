import ApiLowering.Decimal.Shortest

/-!
# Numbers in documents

A number is whole if its literal is a whole number of at most 64 bits; every other literal is a
double-precision number. The two kinds never compare equal.

## Main definitions

* `Number` — a whole or a double-precision number.
* `Number.readLiteral?` — the number at the start of a text, with the rest of the text.
* `Number.text` — the shortest text that reads back as the number.
-/

namespace ApiLowering

/-- A number of a document. -/
inductive Number where
  /-- A whole number between `-2 ^ 63` and `2 ^ 64 - 1`. -/
  | whole (n : Int)
  /-- A double-precision number. -/
  | double (x : Binary64)
deriving Repr, DecidableEq, Inhabited

namespace Number

/-- Equality of numbers of the same kind. -/
def same : Number → Number → Bool
  | whole m, whole n => m == n
  | double x, double y => x.sameValue y
  | _, _ => false

instance : BEq Number := ⟨same⟩

/-- The text of a number: whole numbers in full, the others with their shortest digits. -/
def text : Number → String
  | whole n => toString n
  | double x => x.scientificText

/-- The text of a bound: every digit is written out, and a fraction only if there is one and the
bounded values may have one. -/
def boundText (integral : Bool) : Number → String
  | whole n => toString n
  | double x =>
    if integral && !x.isWhole then x.signText ++ toString x.wholePart else x.plainText

/-- The number as a natural number below `2 ^ 64`. -/
def toNat? : Number → Option Nat
  | whole n => if 0 ≤ n then some n.toNat else none
  | double _ => none

/-! ## Reading a literal -/

/-- The value of a decimal digit. -/
def digitValue (c : Char) : Nat := c.toNat - '0'.toNat

/-- The digits at the start of a text, and the rest. -/
def takeDigits (cs : List Char) : List Char × List Char :=
  (cs.takeWhile Char.isDigit, cs.dropWhile Char.isDigit)

/-- The value of a list of digits. -/
def digitsValue (ds : List Char) : Nat := ds.foldl (fun n d => 10 * n + digitValue d) 0

/-- Reads digits into a significand until the next one would not fit into 64 bits; answers the
significand and the digits left over. -/
def accumulate (significand : Nat) : List Char → Nat × List Char
  | [] => (significand, [])
  | d :: ds =>
    let next := significand * 10 + digitValue d
    if next < Nat.pow 2 64 then accumulate next ds else (significand, d :: ds)

/-- The largest power of ten for one scaling. -/
def maxPower : Nat := 308

/-- Divides by the largest power of ten several times, or until the number is zero. -/
def divideRepeatedly : Nat → Binary64 → Option Binary64
  | 0, x => some x
  | n + 1, x =>
    if x.significand = 0 then some x
    else (x.scale10? true maxPower).bind (divideRepeatedly n)

/-- The double-precision value of `x * 10 ^ exponent`, with one rounding for each scaling by at most
`10 ^ maxPower`. None if the number is too large. -/
def scaled? (x : Binary64) (exponent : Int) : Option Binary64 :=
  if x.significand = 0 then some x
  else if exponent < 0 then
    let power := exponent.natAbs
    let rounds := (power - 1) / maxPower
    (divideRepeatedly rounds x).bind fun y => y.scale10? true (power - rounds * maxPower)
  else if exponent.natAbs ≤ maxPower then x.scale10? false exponent.natAbs
  else none

/-- The exponent after `e` or `E`, and the rest; zero if there is none. None if its digits are
missing. -/
def readExponent? : List Char → Option (Int × List Char)
  | c :: rest =>
    if c = 'e' ∨ c = 'E' then
      let (negative, rest) := match rest with
        | '+' :: r => (false, r)
        | '-' :: r => (true, r)
        | r => (false, r)
      let (ds, rest) := takeDigits rest
      if ds.isEmpty then none
      else
        let e : Int := digitsValue ds
        some (if negative then -e else e, rest)
    else some (0, c :: rest)
  | [] => some (0, [])

/-- The outcome of reading a literal: a number, or a literal whose value is out of range. -/
inductive Literal where
  | number (n : Number)
  | outOfRange

/-- The literal of a double-precision number from its parts. -/
def doubleLiteral (negative : Bool) (significand : Nat) (exponent : Int) : Literal :=
  match scaled? (Binary64.ofNat negative significand) exponent with
  | some x => .number (double x)
  | none => .outOfRange

/-- Reads a number literal at the start of a text: a minus sign or none, digits without a leading
zero, then a fraction and an exponent or neither. -/
def readLiteral? (cs : List Char) : Option (Literal × List Char) := do
  let (negative, cs) := match cs with
    | '-' :: r => (true, r)
    | r => (false, r)
  let (ds, rest) := takeDigits cs
  if ds.isEmpty || (ds.head? == some '0' && ds.length > 1) then none
  else
    let (significand, dropped) := accumulate 0 ds
    let scale : Int := dropped.length
    match rest with
    | '.' :: rest =>
      let (fs, rest) := takeDigits rest
      if fs.isEmpty then none
      else
        let (significand, unread) := accumulate significand fs
        let read : Int := fs.length - unread.length
        let (e, rest) ← readExponent? rest
        some (doubleLiteral negative significand (scale - read + e), rest)
    | rest =>
      let (e, after) ← readExponent? rest
      if after.length < rest.length || scale ≠ 0 then
        some (doubleLiteral negative significand (scale + e), after)
      else if negative then
        if significand = 0 ∨ Nat.pow 2 63 < significand then
          some (.number (double (Binary64.ofNat true significand)), rest)
        else some (.number (whole (-significand)), rest)
      else some (.number (whole significand), rest)

end Number

end ApiLowering
