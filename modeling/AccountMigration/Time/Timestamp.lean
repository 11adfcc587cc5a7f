import AccountMigration.Time.Date

/-!
# Timestamps

A point of time in UTC with nanoseconds.  A leap second is the second 59 of its minute with
a fraction of one second or more, so it lies behind every fraction of second 59 and in
front of the next minute.

* `Timestamp.position` orders timestamps on a line.
* `Timestamp.position_injective`: different timestamps have different positions.
-/

namespace AccountMigration

/-- The nanoseconds of a second. -/
def nanosPerSecond : Nat :=
  1000000000

/-- The seconds of a day. -/
def secondsPerDay : Nat :=
  86400

/-- A point of time in UTC. -/
structure Timestamp where
  date : Date
  /-- Seconds since midnight; a leap second counts with the second in front of it. -/
  second : Nat
  /-- Nanoseconds since the second; one second or more inside a leap second. -/
  nano : Nat
  second_lt : second < secondsPerDay
  nano_lt : nano < 2 * nanosPerSecond
  leap_second : nanosPerSecond ≤ nano → second % 60 = 59
  deriving DecidableEq

namespace Timestamp

/-- The timestamp of a date, a second and a fraction, when there is such a time. -/
def of?
    (date : Date)
    (second nano : Nat) : Option Timestamp :=
  if hs : second < secondsPerDay then
    if hn : nano < 2 * nanosPerSecond then
      if hl : nanosPerSecond ≤ nano → second % 60 = 59 then
        some ⟨date, second, nano, hs, hn, hl⟩
      else none
    else none
  else none

/--
A position that orders timestamps.  Every month is given room for 32 days and every year for
13 months, so positions have gaps but compare as the timestamps do. -/
def position
    (t : Timestamp) : Int :=
  (((t.date.year * 13 + t.date.month) * 32 + t.date.day) * 86400 + t.second) * 2000000000
    + t.nano

/-- Whether the first timestamp lies after the second. -/
def isAfter
    (t u : Timestamp) : Bool :=
  u.position < t.position

@[simp] theorem of?_self
    (t : Timestamp) :
    of? t.date t.second t.nano = some t := by
  simp only [of?, dif_pos t.second_lt, dif_pos t.nano_lt, dif_pos t.leap_second]

/-- Different timestamps have different positions. -/
theorem position_injective
    {t u : Timestamp}
    (h : t.position = u.position) :
    t = u := by
  have hd := t.date.day_le
  have hd' := u.date.day_le
  have hm := t.date.month_bounds
  have hm' := u.date.month_bounds
  have hs := t.second_lt
  have hs' := u.second_lt
  have hn := t.nano_lt
  have hn' := u.nano_lt
  unfold position at h
  unfold secondsPerDay at hs hs'
  unfold nanosPerSecond at hn hn'
  obtain ⟨⟨y, m, d, _, _, _⟩, s, n, _, _, _⟩ := t
  obtain ⟨⟨y', m', d', _, _, _⟩, s', n', _, _, _⟩ := u
  simp only at *
  have : n = n' := by omega
  have : s = s' := by omega
  have : d = d' := by omega
  have : m = m' := by omega
  have : y = y' := by omega
  subst_vars
  rfl

end Timestamp

end AccountMigration
