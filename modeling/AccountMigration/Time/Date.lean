/-!
# Calendar dates

Dates of the proleptic Gregorian calendar between the years -262143 and 262142.  The bounds
of month and day are part of the type, so a `Date` is always a day that exists.

* `Date.of?` builds a date from its three numbers.
* `Date.next?` and `Date.previous?` are the neighbouring days.
-/

namespace AccountMigration

/-- Whether a year has a twenty-ninth of February. -/
def isLeapYear
    (year : Int) : Bool :=
  year % 4 = 0 && (year % 100 ≠ 0 || year % 400 = 0)

/-- The number of days of a month. -/
def daysInMonth
    (year : Int)
    (month : Nat) : Nat :=
  if month = 2 then
    if isLeapYear year then 29 else 28
  else if month = 4 ∨ month = 6 ∨ month = 9 ∨ month = 11 then
    30
  else
    31

/-- A day of the calendar. -/
structure Date where
  year : Int
  month : Nat
  day : Nat
  year_bounds : -262143 ≤ year ∧ year ≤ 262142
  month_bounds : 1 ≤ month ∧ month ≤ 12
  day_bounds : 1 ≤ day ∧ day ≤ daysInMonth year month
  deriving DecidableEq

namespace Date

/-- The date of three numbers, when there is such a day. -/
def of?
    (year : Int)
    (month day : Nat) : Option Date :=
  if hy : -262143 ≤ year ∧ year ≤ 262142 then
    if hm : 1 ≤ month ∧ month ≤ 12 then
      if hd : 1 ≤ day ∧ day ≤ daysInMonth year month then
        some ⟨year, month, day, hy, hm, hd⟩
      else none
    else none
  else none

/-- The day after. -/
def next?
    (d : Date) : Option Date :=
  if d.day < daysInMonth d.year d.month then of? d.year d.month (d.day + 1)
  else if d.month < 12 then of? d.year (d.month + 1) 1
  else of? (d.year + 1) 1 1

/-- The day before. -/
def previous?
    (d : Date) : Option Date :=
  if 1 < d.day then of? d.year d.month (d.day - 1)
  else if 1 < d.month then of? d.year (d.month - 1) (daysInMonth d.year (d.month - 1))
  else of? (d.year - 1) 12 31

/-- A date is rebuilt from its numbers. -/
@[simp] theorem of?_self
    (d : Date) :
    of? d.year d.month d.day = some d := by
  simp [of?, d.year_bounds, d.month_bounds, d.day_bounds]

theorem day_le
    (d : Date) :
    d.day ≤ 31 := by
  have h := d.day_bounds.2
  unfold daysInMonth at h
  split at h
  · split at h <;> omega
  · split at h <;> omega

end Date

end AccountMigration
