/-!
# Instants

An instant is a second of the Gregorian calendar in coordinated universal time,
with its nanoseconds. A minute may have a second numbered 60.

* `Instant.of?`: the instant with the given fields, if the calendar has it.
* `Instant.shift?`: an instant some minutes later or earlier.
* `Instant.wholeSecond`: without the nanoseconds.
-/

namespace ClusterKeeper

namespace Calendar

/-- Whether the year has a 29th of February. -/
def isLeap (year : Int) : Bool := year % 4 = 0 ∧ (year % 100 ≠ 0 ∨ year % 400 = 0)

/-- The days of a month. -/
def daysIn (year : Int) (month : Nat) : Nat :=
  if month = 2 then (if isLeap year then 29 else 28)
  else if month = 4 ∨ month = 6 ∨ month = 9 ∨ month = 11 then 30
  else 31

/-- The years that instants may lie in. -/
def firstYear : Int := -262143

/-- The last of them. -/
def lastYear : Int := 262142

/-- The day after. -/
def nextDay (year : Int) (month day : Nat) : Int × Nat × Nat :=
  if day < daysIn year month then (year, month, day + 1)
  else if month < 12 then (year, month + 1, 1)
  else (year + 1, 1, 1)

/-- The day before. -/
def previousDay (year : Int) (month day : Nat) : Int × Nat × Nat :=
  if 1 < day then (year, month, day - 1)
  else if 1 < month then (year, month - 1, daysIn year (month - 1))
  else (year - 1, 12, 31)

end Calendar

/-- A second of the calendar in coordinated universal time, with its nanoseconds. -/
structure Instant where
  year : Int
  month : Nat
  day : Nat
  hour : Nat
  minute : Nat
  second : Nat
  nano : Nat
  year_range : Calendar.firstYear ≤ year ∧ year ≤ Calendar.lastYear
  month_range : 1 ≤ month ∧ month ≤ 12
  day_range : 1 ≤ day ∧ day ≤ Calendar.daysIn year month
  time_range : hour < 24 ∧ minute < 60 ∧ second ≤ 60
  nano_range : nano < 1000000000
  deriving DecidableEq, Repr

namespace Instant

/-- The instant with these fields, if the calendar has it. -/
def of? (year : Int) (month day hour minute second nano : Nat) : Option Instant :=
  if hy : Calendar.firstYear ≤ year ∧ year ≤ Calendar.lastYear then
    if hm : 1 ≤ month ∧ month ≤ 12 then
      if hd : 1 ≤ day ∧ day ≤ Calendar.daysIn year month then
        if ht : hour < 24 ∧ minute < 60 ∧ second ≤ 60 then
          if hn : nano < 1000000000 then
            some ⟨year, month, day, hour, minute, second, nano, hy, hm, hd, ht, hn⟩
          else none
        else none
      else none
    else none
  else none

/-- The instant `minutes` later, for less than a day either way. -/
def shift? (t : Instant) (minutes : Int) : Option Instant :=
  let total := (t.hour * 60 + t.minute : Int) + minutes
  let (year, month, day) :=
    if total < 0 then Calendar.previousDay t.year t.month t.day
    else if 1440 ≤ total then Calendar.nextDay t.year t.month t.day
    else (t.year, t.month, t.day)
  let ofDay := (total % 1440).toNat
  of? year month day (ofDay / 60) (ofDay % 60) t.second t.nano

/-- The instant without its nanoseconds. -/
def wholeSecond (t : Instant) : Instant := { t with nano := 0, nano_range := by decide }

end Instant

end ClusterKeeper
