/-!
# Days and moments

Days of the proleptic Gregorian calendar, and moments in universal time.

## Main definitions

* `Day`, `Day.isValid` — a day of a year.
* `Day.next`, `Day.previous` — the neighbours of a day.
* `Moment` — a day with a time.
* `Moment.shift` — a moment some minutes later or earlier.

## Main results

* `Day.previous_next` — the day before the next one is the day itself.
-/

namespace ApiLowering

/-- A day of the proleptic Gregorian calendar. -/
structure Day where
  year : Int
  month : Nat
  day : Nat
deriving Repr, DecidableEq, Inhabited

namespace Day

/-- Whether a year has a 29th of February. -/
def isLeapYear (year : Int) : Bool :=
  year % 4 == 0 && (year % 100 != 0 || year % 400 == 0)

/-- The number of days of a month. -/
def daysIn (year : Int) (month : Nat) : Nat :=
  if month = 2 then if isLeapYear year then 29 else 28
  else if month = 4 ∨ month = 6 ∨ month = 9 ∨ month = 11 then 30
  else 31

/-- The years that are in range. -/
def inRange (year : Int) : Bool := -262143 ≤ year && year ≤ 262142

/-- Whether there is such a day. -/
def isValid (d : Day) : Bool :=
  1 ≤ d.month && d.month ≤ 12 && 1 ≤ d.day && d.day ≤ daysIn d.year d.month

/-- The day after. -/
def next (d : Day) : Day :=
  if d.day < daysIn d.year d.month then { d with day := d.day + 1 }
  else if d.month < 12 then { d with month := d.month + 1, day := 1 }
  else ⟨d.year + 1, 1, 1⟩

/-- The day before. -/
def previous (d : Day) : Day :=
  if 1 < d.day then { d with day := d.day - 1 }
  else if 1 < d.month then ⟨d.year, d.month - 1, daysIn d.year (d.month - 1)⟩
  else ⟨d.year - 1, 12, 31⟩

/-- The day before the next one is the day itself. -/
theorem previous_next {d : Day} (h : d.isValid = true) : d.next.previous = d := by
  obtain ⟨year, month, day⟩ := d
  simp only [isValid, Bool.and_eq_true, decide_eq_true_eq] at h
  obtain ⟨⟨⟨hm, hm'⟩, hd⟩, hd'⟩ := h
  simp only [next]
  split
  · have : 1 < day + 1 := by omega
    simp [previous, this]
  · rename_i hlast
    have hday : day = daysIn year month := by omega
    split
    · have : 1 < month + 1 := by omega
      simp [previous, this, hday]
    · have : month = 12 := by omega
      subst this
      simp [previous, hday, daysIn]

/-- At least so many digits of a number. -/
def padded (width n : Nat) : String :=
  let digits := toString n
  String.ofList (List.replicate (width - digits.length) '0') ++ digits

/-- The text of a year: four digits, or a sign and at least four digits. -/
def yearText (year : Int) : String :=
  if 0 ≤ year ∧ year ≤ 9999 then padded 4 year.natAbs
  else (if year < 0 then "-" else "+") ++ padded 4 year.natAbs

/-- The text of a day. -/
def text (d : Day) : String :=
  yearText d.year ++ "-" ++ padded 2 d.month ++ "-" ++ padded 2 d.day

end Day

/-- A day with a time. A leap second is a sixtieth second. -/
structure Moment where
  day : Day
  hour : Nat
  minute : Nat
  second : Nat
  nanosecond : Nat
deriving Repr, DecidableEq, Inhabited

namespace Moment

/-- The moment some minutes later, or earlier if the number is negative. The minutes are less than
those of two days. -/
def shift (m : Moment) (minutes : Int) : Moment :=
  let total : Int := m.hour * 60 + m.minute + minutes
  let day := if total < 0 then m.day.previous else if 1440 ≤ total then m.day.next else m.day
  let inDay := (total % 1440).toNat
  { m with day, hour := inDay / 60, minute := inDay % 60 }

/-- The text of a fraction of a second: none, or as many digits as needed in steps of three. -/
def fractionText (nanosecond : Nat) : String :=
  if nanosecond = 0 then ""
  else if nanosecond % 1000000 = 0 then "." ++ Day.padded 3 (nanosecond / 1000000)
  else if nanosecond % 1000 = 0 then "." ++ Day.padded 6 (nanosecond / 1000)
  else "." ++ Day.padded 9 nanosecond

/-- The text of a moment in universal time. -/
def text (m : Moment) : String :=
  m.day.text ++ "T" ++ Day.padded 2 m.hour ++ ":" ++ Day.padded 2 m.minute ++ ":" ++
    Day.padded 2 m.second ++ fractionText m.nanosecond ++ "+00:00"

end Moment

end ApiLowering
