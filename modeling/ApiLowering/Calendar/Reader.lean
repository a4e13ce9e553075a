import ApiLowering.Calendar.Basic
import ApiLowering.Json.Number
import ApiLowering.Text.Basic

/-!
# Reading days and moments

## Main definitions

* `Day.read?` — a day with its parts in any width.
* `Moment.read?` — a moment with its offset, brought to universal time.
* `Day.readLoosely?` — a day, or the day of a moment.
-/

namespace ApiLowering

/-! ## Pieces -/

namespace Calendar

/-- A number of at least one and at most `width` digits, and the rest. -/
def readNumber? (width : Nat) (cs : List Char) : Option (Nat × List Char) :=
  let ds := (cs.takeWhile Char.isDigit).take width
  if ds.isEmpty then none else some (Number.digitsValue ds, cs.drop ds.length)

/-- A number of exactly so many digits, and the rest. -/
def readExactly? (width : Nat) (cs : List Char) : Option (Nat × List Char) :=
  let ds := (cs.takeWhile Char.isDigit).take width
  if ds.length = width then some (Number.digitsValue ds, cs.drop width) else none

/-- What follows a given character. -/
def after? (c : Char) : List Char → Option (List Char)
  | d :: rest => if d = c then some rest else none
  | [] => none

/-- A year, signed or of at most four digits, and the rest. -/
def readYear? : List Char → Option (Int × List Char)
  | '-' :: rest => (readNumber? rest.length rest).map fun (n, r) => (-(n : Int), r)
  | '+' :: rest => (readNumber? rest.length rest).map fun (n, r) => ((n : Int), r)
  | cs => (readNumber? 4 cs).map fun (n, r) => ((n : Int), r)

end Calendar

open Calendar

/-! ## Days -/

/-- Reads a day: year, month and day with hyphens between them, each after any white space. -/
def Day.read? (s : String) : Option Day := do
  let skip (cs : List Char) : List Char := cs.dropWhile Text.isBlank
  let (year, cs) ← readYear? (skip s.toList)
  let (month, cs) ← readNumber? 2 (skip (← after? '-' cs))
  let (day, cs) ← readNumber? 2 (skip (← after? '-' cs))
  let d : Day := ⟨year, month, day⟩
  if cs.isEmpty && d.isValid && Day.inRange year then some d else none

/-! ## Moments -/

namespace Moment

/-- A fraction of a second in nanoseconds, and the rest. Digits beyond the ninth are dropped. -/
def readFraction? : List Char → Option (Nat × List Char)
  | '.' :: cs =>
    let ds := cs.takeWhile Char.isDigit
    let kept := ds.take 9
    if ds.isEmpty then none
    else some (Number.digitsValue kept * Nat.pow 10 (9 - kept.length), cs.drop ds.length)
  | cs => some (0, cs)

/-- An offset from universal time in minutes, and the rest. -/
def readOffset? : List Char → Option (Int × List Char)
  | [] => none
  | sign :: cs =>
    if sign = 'Z' ∨ sign = 'z' then some (0, cs)
    else if sign = '+' ∨ sign = '-' ∨ sign = '\u2212' then do
      let (hours, cs) ← readExactly? 2 cs
      let (minutes, cs) ← readExactly? 2 (← after? ':' cs)
      if hours > 23 ∨ minutes > 59 then none
      else
        let total : Int := hours * 60 + minutes
        some (if sign = '+' then total else -total, cs)
    else none

/-- Reads a moment with its offset, and brings it to universal time. -/
def read? (s : String) : Option Moment := do
  let (year, cs) ← readExactly? 4 s.toList
  let (month, cs) ← readExactly? 2 (← after? '-' cs)
  let (dayOfMonth, cs) ← readExactly? 2 (← after? '-' cs)
  let day : Day := ⟨year, month, dayOfMonth⟩
  let cs ← match cs with
    | c :: rest => if c = 't' ∨ c = 'T' ∨ c = ' ' then some rest else none
    | [] => none
  let (hour, cs) ← readExactly? 2 cs
  let (minute, cs) ← readExactly? 2 (← after? ':' cs)
  let (second, cs) ← readExactly? 2 (← after? ':' cs)
  let (nanosecond, cs) ← readFraction? cs
  let (offset, cs) ← readOffset? cs
  if cs.isEmpty && day.isValid && hour ≤ 23 && minute ≤ 59 && second ≤ 60 then
    some (Moment.shift ⟨day, hour, minute, second, nanosecond⟩ (-offset))
  else none

end Moment

/-- Reads a day, or the day of a moment in universal time. -/
def Day.readLoosely? (s : String) : Option Day :=
  match Day.read? s with
  | some d => some d
  | none => (Moment.read? s).map (·.day)

end ApiLowering
